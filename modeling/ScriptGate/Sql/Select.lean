/-
  ScriptGate.Sql.Select — queries: SELECT, set operators, WITH and the bounds of the result.
-/
import ScriptGate.Sql.TableSource

namespace ScriptGate.Sql

open Rule ScriptGate.Text

/-! ## §1. Projection -/

/-- What a star leaves out, replaces or renames. -/
def starOptions (g : Grammar) : Rule Unit := do
  let filtered ← keyword? "ILIKE"
  if filtered then ignored plainText
  else if ← keyword? "EXCLUDE" then oneOrMany (ignored name)
  if ← keyword? "EXCEPT" then oneOrMany (ignored name)
  if ← keyword? "REPLACE" then
    parenthesized <| ignored <| commaSeparated do
      let _ ← g.anyTerm
      let _ ← keyword? "AS"
      name
  if ← keyword? "RENAME" then oneOrMany renamed
where
  /-- One item, or several in parentheses. -/
  oneOrMany (item : Rule Unit) : Rule Unit := do
    if ← sees (Token.isSign "(") then parenthesized (ignored (commaSeparated item))
    else item
  /-- `name AS name`. -/
  renamed : Rule Unit := do
    let _ ← name
    keyword "AS"
    ignored name

/-- An item of a projection; tells whether it is an unqualified star.  The bare word FROM is no
    item: there the items are missing. -/
def selectItem (g : Grammar) : Rule Bool := do
  match ← starOrTerm g with
  | .wildcard =>
    starOptions g
    return true
  | .qualifiedWildcard => starOptions g
  | .name text quoted =>
    require (quoted || lowerString text != "from")
    ignored (alias? noColumnAlias)
  | .other => ignored (alias? noColumnAlias)
  return false

/-- A RETURNING clause, if it is there. -/
def returning? (g : Grammar) : Rule Unit :=
  ignored (behind? "RETURNING" (commaSeparated (selectItem g)))

/-! ## §2. Clauses of SELECT -/

/-- DISTINCT, perhaps ON terms; ALL, which is the default; but not both. -/
def distinct? (g : Grammar) : Rule Bool := do
  let distinct ← allOrDistinct?
  if distinct then
    if ← keyword? "ON" then
      parenthesized (ignored (commaSeparatedBefore ")" g.anyTerm))
  return distinct

/-- TOP behind its keyword. -/
def top (g : Grammar) : Rule Unit := do
  if ← sees (Token.isSign "(") then g.parenthesizedTerm else natural
  let _ ← keyword? "PERCENT"
  ignored (keywords? ["WITH", "TIES"])

/-- Where the result goes, behind INTO. -/
def intoTable : Rule Unit := do
  let _ ← oneOf? ["TEMP", "TEMPORARY"]
  let _ ← keyword? "UNLOGGED"
  let _ ← keyword? "TABLE"
  ignored path

/-- A LATERAL VIEW clause, if one follows. -/
def lateralView? (g : Grammar) : Rule Bool := do
  if ← keywords? ["LATERAL", "VIEW"] then
    let _ ← keyword? "OUTER"
    let _ ← g.anyTerm
    let _ ← path
    let _ ← commaSeparated (alias? ["WHERE", "GROUP", "CLUSTER", "HAVING", "LATERAL"])
    return true
  return false

/-- A tuple of terms, perhaps empty; a single term will do where `lifts`. -/
def groupingTuple (g : Grammar) (lifts : Bool) : Rule Unit := do
  if lifts && !(← sees (Token.isSign "(")) then ignored g.anyTerm
  else parenthesized (ignored (commaSeparatedBefore ")" g.anyTerm))

/-- A term to group by. -/
def groupingTerm (g : Grammar) : Rule Unit := do
  let ts ← ahead
  if ← keywords? ["GROUPING", "SETS"] then tuples false
  else if (← oneOf? ["CUBE", "ROLLUP"]).isSome then tuples true
  else if ts.take 2 == [.sign "(", .sign ")"] then
    skip
    skip
  else ignored g.anyTerm
where
  /-- Tuples in parentheses. -/
  tuples (lifts : Bool) : Rule Unit :=
    parenthesized (ignored (commaSeparated (groupingTuple g lifts)))

/-- A GROUP BY clause, if it is there. -/
def groupBy? (g : Grammar) : Rule Unit := do
  if ← keywords? ["GROUP", "BY"] then
    if !(← keyword? "ALL") then ignored (commaSeparated (groupingTerm g))
    while? do
      if ← keyword? "WITH" then
        let _ ← oneOf ["ROLLUP", "CUBE", "TOTALS"]
        return true
      return false

/-- The named windows behind WINDOW. -/
def namedWindows (g : Grammar) : Rule Unit :=
  ignored <| commaSeparated do
    let _ ← name
    keyword "AS"
    if ← sign? "(" then window g else ignored name

/-- The WINDOW and QUALIFY clauses, in either order. -/
def windowsAndQualify? (g : Grammar) : Rule Unit := do
  if ← keyword? "WINDOW" then
    namedWindows g
    ignored (behind? "QUALIFY" g.anyTerm)
  else if ← keyword? "QUALIFY" then
    let _ ← g.anyTerm
    ignored (behind? "WINDOW" (namedWindows g))

/-- The clauses of a hierarchy, in either order, if they are there. -/
def hierarchy? (g : Grammar) : Rule Unit := do
  if ← sees (Token.isKeyword "START") then
    startWith
    connectBy
  else if ← sees (Token.isKeyword "CONNECT") then
    connectBy
    startWith
where
  /-- START WITH. -/
  startWith : Rule Unit := do
    keywords ["START", "WITH"]
    ignored g.anyTerm
  /-- CONNECT BY. -/
  connectBy : Rule Unit := do
    keywords ["CONNECT", "BY"]
    inHierarchy g.terms

/-! ## §3. SELECT -/

/-- A SELECT without what may follow the body of a query. -/
def select (g : Grammar) : Rule Select := do
  keyword "SELECT"
  let distinct ← distinct? g
  let _ ← behind? "TOP" (top g)
  let stars ← commaSeparated (selectItem g)
  let _ ← behind? "INTO" intoTable
  let joins ← behind? "FROM" (sources g)
  while? (lateralView? g)
  let _ ← behind? "PREWHERE" g.anyTerm
  let selection ← behind? "WHERE" g.anyTerm
  groupBy? g
  for clause in ["CLUSTER", "DISTRIBUTE", "SORT"] do
    if ← keywords? [clause, "BY"] then g.terms
  let _ ← behind? "HAVING" g.anyTerm
  windowsAndQualify? g
  hierarchy? g
  return { wildcard := stars.any id, joins := joins.getD [], hasWhere := selection.isSome, distinct }

/-! ## §4. Set operators -/

/-- The table behind TABLE, with its schema or without. -/
def wholeTable : Rule Unit := fun _ ts =>
  match ts with
  | .word _ :: .sign "." :: .word _ :: rest => .ok ((), rest)
  | .word _ :: .sign "." :: _ => .error .unexpected
  | .word _ :: rest => .ok ((), rest.drop 2)
  | _ => .error .unexpected

/-- A body without set operators. -/
def simpleBody (g : Grammar) : Rule Body := do
  if ← sees (Token.isKeyword "SELECT") then return .select (← select g)
  if ← sees (Token.isSign "(") then
    g.parenthesizedQuery
    return .other
  if ← keyword? "VALUES" then return .rows (← valueRows g)
  keyword "TABLE"
  wholeTable
  return .other

/-- How tightly a set operator binds; zero for every other token. -/
def setBinding (t : Option Token) : Nat :=
  match t.elim "" Token.keyword with
  | "UNION" | "EXCEPT" => 10
  | "INTERSECT" => 20
  | _ => 0

/-- What may stand between a set operator and its right side. -/
def setQuantifier? : Rule Unit :=
  ignored <| anyKeywords? [["DISTINCT", "BY", "NAME"], ["BY", "NAME"], ["ALL", "BY", "NAME"],
    ["ALL"], ["DISTINCT"]]

/-- The body of a query, with the set operators that bind more tightly than `above`. -/
def body (g : Grammar) (above : Nat) : Rule Body := do
  let first ← simpleBody g
  let others ← repeated do
    let tightness := setBinding (← peek)
    if tightness ≤ above then return none
    skip
    setQuantifier?
    return some (← g.body tightness)
  return if others.isEmpty then first else .other

/-! ## §5. Bounds and locks -/

/-- The bound behind LIMIT; ALL is none. -/
def limit (g : Grammar) : Rule Bool := do
  if ← keyword? "ALL" then return false
  let _ ← g.anyTerm
  return true

/-- A LIMIT clause, if it is there; tells whether it sets a bound. -/
def limit? (g : Grammar) : Rule Bool := do
  if ← keyword? "LIMIT" then limit g else return false

/-- An OFFSET clause, if it is there. -/
def offset? (g : Grammar) : Rule Bool := do
  if ← keyword? "OFFSET" then
    let _ ← g.anyTerm
    let _ ← oneOf? ["ROW", "ROWS"]
    return true
  return false

/-- The INTERPOLATE clause, if it is there. -/
def interpolate? (g : Grammar) : Rule Unit := do
  if ← keyword? "INTERPOLATE" then
    if ← sees (Token.isSign "(") then
      parenthesized <| ignored <| commaSeparatedBefore ")" do
        let _ ← name
        behind? "AS" g.anyTerm

/-- Takes LIMIT, OFFSET or the second number behind LIMIT, as far as they are still missing. -/
def moreBounds (g : Grammar) (limited skipped : Bool) : Rule (Bool × Bool) := do
  let limited ← if limited then pure true else limit? g
  let skipped ← if skipped then pure true else offset? g
  if limited && !skipped then
    if ← sign? "," then
      let _ ← g.anyTerm
      return (true, true)
  return (limited, skipped)

/-- The bounds of a result: LIMIT and OFFSET in either order, or LIMIT with two numbers.  Tells
    whether there is a bound on the number of rows. -/
def bounds (g : Grammar) : Rule Bool := do
  let (limited, skipped) ← moreBounds g false false
  return (← moreBounds g limited skipped).1

/-- FETCH behind its keyword. -/
def fetch : Rule Unit := do
  let _ ← oneOf ["FIRST", "NEXT"]
  if (← oneOf? ["ROW", "ROWS"]).isNone then
    anyValue
    let _ ← keyword? "PERCENT"
    ignored (oneOf ["ROW", "ROWS"])
  require (← anyKeywords? [["ONLY"], ["WITH", "TIES"]])

/-- The result as XML. -/
def forXml : Rule Unit := do
  let shape ← oneOf ["RAW", "AUTO", "EXPLICIT", "PATH"]
  if (shape == "RAW" || shape == "PATH") && (← sees (Token.isSign "(")) then
    parenthesized (ignored text)
  while? do
    if ← sign? "," then
      match ← oneOf? ["ELEMENTS", "BINARY", "ROOT", "TYPE"] with
      | some "BINARY" => keyword "BASE64"
      | some "ROOT" => parenthesized (ignored text)
      | _ => pure ()
      return true
    return false

/-- The result as JSON. -/
def forJson : Rule Unit := do
  let _ ← oneOf ["AUTO", "PATH"]
  while? do
    if ← sign? "," then
      if (← oneOf? ["ROOT", "INCLUDE_NULL_VALUES", "WITHOUT_ARRAY_WRAPPER"]) == some "ROOT" then
        parenthesized (ignored text)
      return true
    return false

/-- What follows FOR: a form of the result, which is the last such clause, or a lock.  Tells
    whether another clause may follow. -/
def forClause : Rule Bool := do
  match ← oneOf? ["XML", "JSON", "BROWSE"] with
  | some "XML" => forXml; return false
  | some "JSON" => forJson; return false
  | some _ => return false
  | none =>
    let _ ← oneOf ["UPDATE", "SHARE"]
    let _ ← behind? "OF" path
    let _ ← anyKeywords? [["NOWAIT"], ["SKIP", "LOCKED"]]
    return true

/-- The clauses behind FOR. -/
def forClauses? : Rule Unit := do
  while? do
    if ← keyword? "FOR" then forClause else return false

/-! ## §6. Queries -/

/-- A query named by WITH. -/
def namedQuery (g : Grammar) : Rule Unit := do
  let _ ← name
  if !(← keyword? "AS") then
    aliasColumns? g
    keyword "AS"
  g.parenthesizedQuery
  ignored (behind? "FROM" name)

/-- A query; `insert` and `update` read the changes that WITH may stand in front of. -/
def query (g : Grammar) (insert update : Rule Unit) : Rule Query := nested do
  if ← keyword? "WITH" then
    let _ ← keyword? "RECURSIVE"
    ignored (commaSeparated (namedQuery g))
  if ← keyword? "INSERT" then
    insert
    return { body := .other }
  if ← keyword? "UPDATE" then
    update
    return { body := .other }
  let body ← body g 0
  let ordered ← orderBy? g
  if ordered then interpolate? g
  let limited ← bounds g
  if ← keyword? "BY" then g.terms
  let _ ← settings?
  let fetched ← behind? "FETCH" fetch
  forClauses?
  if ← keyword? "FORMAT" then
    if !(← keyword? "NULL") then ignored name
  return { body, ordered, limited := limited || fetched.isSome }

end ScriptGate.Sql
