/-
  ScriptGate.Sql.TableSource — what may stand in a FROM clause.

  A parenthesis there opens either a query or a join.  The query is tried first; where it does not
  fit, the parenthesis holds a source with its joins.
-/
import ScriptGate.Sql.RowPattern

namespace ScriptGate.Sql

open Rule

/-! ## §1. Rows and arguments -/

/-- Rows behind VALUES; answers with their number. -/
def valueRows (g : Grammar) : Rule Nat := do
  let rows ← commaSeparated do
    let _ ← keyword? "ROW"
    g.parenthesizedTerms
  return rows.length

/-- A SETTINGS clause, if it is there. -/
def settings? : Rule Bool := do
  if ← keyword? "SETTINGS" then
    let _ ← commaSeparated do
      let _ ← name
      sign "="
      anyValue
    return true
  return false

/-- The arguments of a table function behind the opening parenthesis. -/
def tableArguments (g : Grammar) : Rule Unit := do
  if ← sign? ")" then return
  let _ ← separated (sign? ",") do
    if !(← settings?) then argument g
  sign ")"

/-! ## §2. Turning rows and columns -/

/-- PIVOT behind its keyword. -/
def pivot (g : Grammar) : Rule Unit :=
  parenthesized do
    let _ ← commaSeparated do
      match ← next with
      | .word _ => call g
      | _ => refuse
      ignored (behind? "AS" name)
    keyword "FOR"
    let _ ← path
    keyword "IN"
    parenthesized do
      if ← keyword? "ANY" then ignored (orderBy? g)
      else if ← sees (Token.isKeywordOf ["SELECT", "WITH"]) then ignored g.query
      else
        ignored <| commaSeparated do
          let _ ← g.anyTerm
          behind? "AS" name
    if ← keywords? ["DEFAULT", "ON", "NULL"] then g.parenthesizedTerm

/-- UNPIVOT behind its keyword. -/
def unpivot : Rule Unit :=
  parenthesized do
    let _ ← name
    keyword "FOR"
    let _ ← name
    keyword "IN"
    columnList

/-- Any number of PIVOT and UNPIVOT clauses behind a source. -/
def pivoted (g : Grammar) (source : Source) : Rule Source := do
  let turns ← repeated do
    match ← oneOf? ["PIVOT", "UNPIVOT"] with
    | some "PIVOT" => pivot g
    | some _ => unpivot
    | none => return none
    return some (← tableAlias? g)
  return turns.getLast?.elim source fun aliased => { aliased }

/-! ## §3. Tables read from JSON -/

/-- What to do when a value is missing, if it is said. -/
def jsonDefault? : Rule Bool := do
  if ← keyword? "DEFAULT" then anyValue
  else if (← oneOf? ["NULL", "ERROR"]).isNone then return false
  keyword "ON"
  let _ ← oneOf ["EMPTY", "ERROR"]
  return true

/-- A column of a table read from JSON. -/
def jsonColumn (g : Grammar) : Rule Unit := do
  if ← keyword? "NESTED" then
    let _ ← keyword? "PATH"
    anyValue
    keyword "COLUMNS"
    parenthesized (ignored (commaSeparated g.jsonColumn))
  else
    let _ ← name
    if ← keyword? "FOR" then keyword "ORDINALITY"
    else
      let _ ← g.wholeType
      let _ ← keyword? "EXISTS"
      keyword "PATH"
      anyValue
      while? jsonDefault?

/-- JSON_TABLE behind its opening parenthesis. -/
def jsonTable (g : Grammar) : Rule Unit := do
  let _ ← g.anyTerm
  sign ","
  anyValue
  keyword "COLUMNS"
  parenthesized (ignored (commaSeparated (jsonColumn g)))
  sign ")"

/-- OPENJSON behind its opening parenthesis. -/
def openJson (g : Grammar) : Rule Unit := do
  let _ ← g.anyTerm
  if ← sign? "," then anyValue
  sign ")"
  if ← keyword? "WITH" then
    parenthesized <| ignored <| commaSeparated do
      let _ ← name
      let _ ← g.wholeType
      let t ← peek
      match t with
      | some (.literal .plain _) => skip
      | _ => pure ()
      ignored (keywords? ["AS", "JSON"])

/-! ## §4. Joins -/

/-- How the rows of a join are matched, if it is said. -/
def joinCondition? (g : Grammar) : Rule Unit := do
  if ← keyword? "ON" then ignored g.anyTerm
  else if ← keyword? "USING" then columnList

/-- The keywords of a join, up to JOIN. -/
def joinKeywords : List (List String) := [
  ["INNER", "JOIN"], ["JOIN"], ["LEFT", "JOIN"], ["LEFT", "OUTER", "JOIN"],
  ["LEFT", "SEMI", "JOIN"], ["LEFT", "ANTI", "JOIN"], ["RIGHT", "JOIN"],
  ["RIGHT", "OUTER", "JOIN"], ["RIGHT", "SEMI", "JOIN"], ["RIGHT", "ANTI", "JOIN"],
  ["ANTI", "JOIN"], ["SEMI", "JOIN"], ["FULL", "JOIN"], ["FULL", "OUTER", "JOIN"]]

/-- The words a join may open with; none of them may stand alone. -/
def joinOpeners : List String := [
  "CROSS", "OUTER", "ASOF", "NATURAL", "INNER", "JOIN", "LEFT", "RIGHT", "ANTI", "SEMI", "FULL"]

/-- A join, if one follows. -/
def join? (g : Grammar) : Rule (Option Unit) := do
  let _ ← keyword? "GLOBAL"
  if !(← sees (Token.isKeywordOf joinOpeners)) then return none
  if ← keyword? "CROSS" then
    let _ ← oneOf ["JOIN", "APPLY"]
    ignored g.source
  else if ← keyword? "OUTER" then
    keyword "APPLY"
    ignored g.source
  else if ← keyword? "ASOF" then
    keyword "JOIN"
    let _ ← g.source
    keyword "MATCH_CONDITION"
    g.parenthesizedTerm
    joinCondition? g
  else
    let natural ← keyword? "NATURAL"
    require (← anyKeywords? joinKeywords)
    let _ ← g.source
    if !natural then joinCondition? g
  return some ()

/-- A source with its joins; answers with their number. -/
def joinedSource (g : Grammar) : Rule (Source × Nat) := do
  let source ← g.source
  let joins ← repeated (join? g)
  return (source, joins.length)

/-- Sources with commas between; answers with the number of joins of each. -/
def sources (g : Grammar) : Rule (List Nat) := do
  return (← commaSeparated (joinedSource g)).map Prod.snd

/-! ## §5. Sources -/

/-- A query behind its opening parenthesis, with its alias. -/
def subquery (g : Grammar) : Rule Source := do
  let _ ← g.query
  sign ")"
  return { aliased := ← tableAlias? g }

/-- What else stands in parentheses: a join, or a single source that may have its alias inside or
    outside but not both. -/
def parenthesizedSource (g : Grammar) : Rule Source := do
  let (source, joins) ← joinedSource g
  sign ")"
  let aliased ← tableAlias? g
  if joins > 0 || source.nestedJoin then return { nestedJoin := true, aliased }
  require !(aliased && source.aliased)
  return { source with aliased := aliased || source.aliased }

/-- A table or table function by its name. -/
def namedSource (g : Grammar) : Rule Source := do
  let _ ← path
  if ← keyword? "PARTITION" then columnList
  if ← sign? "(" then tableArguments g
  let _ ← keywords? ["WITH", "ORDINALITY"]
  let aliased ← tableAlias? g
  let ts ← ahead
  match ts with
  | t :: u :: _ =>
    if t.isKeyword "WITH" && u.isSign "(" then
      skip
      g.parenthesizedTerms
  | _ => pure ()
  let source ← pivoted g { aliased }
  if ← keyword? "MATCH_RECOGNIZE" then
    matchRecognize g
    return { aliased := ← tableAlias? g }
  return source

/-- A table source. -/
def tableSource (g : Grammar) : Rule Source := do
  let ts ← ahead
  let opens := (ts.drop 1).head?.any (Token.isSign "(")
  if ← keyword? "LATERAL" then
    if ← sign? "(" then subquery g
    else
      let _ ← path
      sign "("
      tableArgumentsOfFunction
      return { aliased := ← tableAlias? g }
  else if ← keyword? "TABLE" then
    g.parenthesizedTerm
    return { aliased := ← tableAlias? g }
  else if ← sign? "(" then
    match ← maybe (subquery g) with
    | some source => pivoted g source
    | none => parenthesizedSource g
  else if opens && (← keyword? "VALUES") then
    let _ ← valueRows g
    return { aliased := ← tableAlias? g }
  else if ← keyword? "UNNEST" then
    g.parenthesizedTerms
    let _ ← keywords? ["WITH", "ORDINALITY"]
    let aliased ← tableAlias? g
    if ← keyword? "WITH" then
      if ← keyword? "OFFSET" then ignored (alias? noColumnAlias)
    return { aliased }
  else if opens && (← keyword? "JSON_TABLE") then
    skip
    jsonTable g
    return { aliased := ← tableAlias? g }
  else if opens && (← keyword? "OPENJSON") then
    skip
    openJson g
    return { aliased := ← tableAlias? g }
  else namedSource g
where
  /-- The arguments of a function behind its opening parenthesis. -/
  tableArgumentsOfFunction : Rule Unit := do
    if ← sign? ")" then return
    let _ ← commaSeparated (argument g)
    sign ")"

end ScriptGate.Sql
