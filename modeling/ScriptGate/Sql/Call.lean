/-
  ScriptGate.Sql.Call — function calls, their windows, and sort terms.
-/
import ScriptGate.Sql.Interval

namespace ScriptGate.Sql

open Rule

/-! ## §1. Stars -/

/-- May this token be part of a name? -/
def isNameToken : Token → Bool
  | .word _ => true
  | .literal .plain _ => true
  | _ => false

/-- Behind the first part of a name: the tokens behind `.*` if the name ends so.  A point that
    neither a name nor a star follows fits nothing. -/
def behindStar : List Token → Option (Option (List Token))
  | .sign s :: t :: rest =>
    if s == "." then
      if t == .sign "*" then some (some rest)
      else if isNameToken t then behindStar rest
      else none
    else some none
  | [.sign s] => if s == "." then none else some none
  | _ => some none

/-- A star, a qualified star, or a term. -/
def starOrTerm (g : Grammar) : Rule Term := fun c ts =>
  match ts with
  | [] => g.anyTerm c ts
  | t :: rest =>
    if t == .sign "*" then .ok (.wildcard, rest)
    else if isNameToken t then
      match behindStar rest with
      | none => .error .unexpected
      | some (some rest) => .ok (.qualifiedWildcard, rest)
      | some none => g.anyTerm c ts
    else g.anyTerm c ts

/-! ## §2. Sort terms -/

/-- A term to sort by. -/
def sortTerm (g : Grammar) : Rule Unit := do
  let _ ← g.anyTerm
  let _ ← oneOf? ["ASC", "DESC"]
  let _ ← anyKeywords? [["NULLS", "FIRST"], ["NULLS", "LAST"]]
  if ← keywords? ["WITH", "FILL"] then
    let _ ← behind? "FROM" g.anyTerm
    let _ ← behind? "TO" g.anyTerm
    let _ ← behind? "STEP" g.anyTerm

/-- Terms to sort by. -/
def sortTerms (g : Grammar) : Rule Unit := ignored (commaSeparated (sortTerm g))

/-- An ORDER BY clause, if it is there. -/
def orderBy? (g : Grammar) : Rule Bool := do
  if ← keywords? ["ORDER", "BY"] then
    sortTerms g
    return true
  return false

/-! ## §3. Windows -/

/-- One end of a window frame; a plain string is the value of an interval. -/
def frameBound (g : Grammar) : Rule Unit := do
  if ← keywords? ["CURRENT", "ROW"] then return
  if !(← keyword? "UNBOUNDED") then
    let t ← peek
    match t with
    | some (.literal .plain _) => interval g
    | _ => ignored g.anyTerm
  ignored (oneOf ["PRECEDING", "FOLLOWING"])

/-- A window frame. -/
def frame (g : Grammar) : Rule Unit := do
  let _ ← oneOf ["ROWS", "RANGE", "GROUPS"]
  if ← keyword? "BETWEEN" then
    frameBound g
    keyword "AND"
  frameBound g

/-- A window behind its opening parenthesis. -/
def window (g : Grammar) : Rule Unit := do
  if ← sees (Token.isKeyword "") then ignored name
  if ← keywords? ["PARTITION", "BY"] then g.terms
  let _ ← orderBy? g
  if ← sign? ")" then return
  frame g
  sign ")"

/-! ## §4. Calls -/

/-- The sign or keyword between the name of an argument and its value. -/
def namesArgument? : Rule Bool := do
  if ← keyword? "VALUE" then return true
  take? fun t => t.isSign "=>" || t.isSign ":="

/-- An argument, with a name or without. -/
def argument (g : Grammar) : Rule Unit := do
  let named ← maybe do
    let _ ← name
    require (← namesArgument?)
    ignored (starOrTerm g)
  if named.isNone then ignored (starOrTerm g)

/-- `RESPECT NULLS` or `IGNORE NULLS`, if it is there. -/
def nullTreatment? : Rule Bool := do
  if (← oneOf? ["RESPECT", "IGNORE"]).isSome then
    keyword "NULLS"
    return true
  return false

/-- `NULL ON NULL` or `ABSENT ON NULL`, if it is there. -/
def onNull? : Rule Unit :=
  ignored (anyKeywords? [["ABSENT", "ON", "NULL"], ["NULL", "ON", "NULL"]])

/-- What to do when an aggregated list grows too long, if it is said. -/
def onOverflow? (g : Grammar) : Rule Unit := do
  if ← keywords? ["ON", "OVERFLOW"] then
    if ← keyword? "ERROR" then return
    keyword "TRUNCATE"
    let t ← peek
    match t with
    | some (.literal kind _) =>
      require (kind != .dollar && kind != .bytes)
      ignored g.anyTerm
    | _ => pure ()
    let _ ← oneOf ["WITH", "WITHOUT"]
    keyword "COUNT"

/-- `ALL` or `DISTINCT`, but not both; tells whether DISTINCT is there. -/
def allOrDistinct? : Rule Bool := do
  let all ← keyword? "ALL"
  let distinct ← keyword? "DISTINCT"
  require !(all && distinct)
  return distinct

/-- The arguments behind the opening parenthesis; tells whether they say how NULL is treated. -/
def arguments (g : Grammar) : Rule Bool := do
  onNull?
  if ← sign? ")" then return false
  let _ ← allOrDistinct?
  let _ ← commaSeparated (argument g)
  let treated ← nullTreatment?
  let _ ← orderBy? g
  let _ ← behind? "LIMIT" g.anyTerm
  if ← keyword? "HAVING" then
    let _ ← oneOf ["MIN", "MAX"]
    ignored g.anyTerm
  let _ ← behind? "SEPARATOR" value
  onOverflow? g
  onNull?
  sign ")"
  return treated

/-- A call behind the name of the function: its arguments, perhaps a second list of them, and the
    clauses that follow. -/
def call (g : Grammar) : Rule Unit := do
  sign "("
  let treated ← arguments g
  let treated ← if ← sign? "(" then arguments g else pure treated
  if ← keywords? ["WITHIN", "GROUP"] then
    parenthesized do
      keywords ["ORDER", "BY"]
      sortTerms g
  if !treated then ignored nullTreatment?
  if ← keyword? "OVER" then
    if ← sign? "(" then window g
    else ignored name

end ScriptGate.Sql
