/-
  ScriptGate.Sql.RowPattern — patterns over the rows of a table, behind MATCH_RECOGNIZE.

  A pattern is a choice of sequences; the items of a sequence are names of rows, the first or the
  last place, or patterns in parentheses, each of them perhaps repeated.
-/
import ScriptGate.Sql.Call

namespace ScriptGate.Sql

open Rule

/-! ## §1. Items -/

/-- How often an item is repeated, behind the opening brace: exactly so often, or between two
    numbers of which one may be missing. -/
def repetitionRange : Rule Unit := do
  if ← sign? "," then smallNatural
  else
    smallNatural
    if ← sign? "," then
      if ← sign? "\x7d" then return
      smallNatural
  sign "\x7d"

/-- How often an item is repeated, if it is said. -/
def quantifier? : Rule Bool := do
  if ← take? fun t => t.isSign "*" || t.isSign "+" || t == .placeholder "?" then return true
  if ← sign? "\x7b" then
    repetitionRange
    return true
  return false

/-- An item of a pattern. -/
def patternItem (g : Grammar) : Rule Unit := do
  if ← take? fun t => t.isSign "^" || t == .placeholder "$" then return
  if ← sign? "\x7b" then
    sign "-"
    let _ ← name
    sign "-"
    sign "\x7d"
  else if ← take? fun t => t == .word { text := "PERMUTE" } then columnList
  else if ← sees (Token.isSign "(") then parenthesized g.rowPattern
  else ignored name

/-- An item of a pattern, perhaps repeated. -/
def repeatedItem (g : Grammar) : Rule Unit := do
  patternItem g
  while? quantifier?

/-! ## §2. Patterns -/

/-- A sequence of items, up to a bar or a closing parenthesis. -/
def itemSequence (g : Grammar) : Rule Unit := do
  repeatedItem g
  while? do
    if ← sees fun t => t.isSign ")" || t.isSign "|" then return false
    repeatedItem g
    return true

/-- A pattern. -/
def rowPattern (g : Grammar) : Rule Unit := ignored (separated (sign? "|") (itemSequence g))

/-! ## §3. The clause -/

/-- The values computed for a match, if there are any. -/
def measures? (g : Grammar) : Rule Unit := do
  if ← keyword? "MEASURES" then
    ignored <| commaSeparated do
      let _ ← g.anyTerm
      let _ ← keyword? "AS"
      name

/-- Which rows of a match are shown, if it is said. -/
def rowsPerMatch? : Rule Unit := do
  if ← keywords? ["ALL", "ROWS", "PER", "MATCH"] then
    ignored (anyKeywords? [["SHOW", "EMPTY", "MATCHES"], ["OMIT", "EMPTY", "MATCHES"],
      ["WITH", "UNMATCHED", "ROWS"]])
  else ignored (keywords? ["ONE", "ROW", "PER", "MATCH"])

/-- Where the search goes on behind a match, if it is said. -/
def afterMatch? : Rule Unit := do
  if ← keywords? ["AFTER", "MATCH", "SKIP"] then
    if ← anyKeywords? [["PAST", "LAST", "ROW"], ["TO", "NEXT", "ROW"]] then return
    require (← anyKeywords? [["TO", "FIRST"], ["TO", "LAST"]])
    ignored name

/-- MATCH_RECOGNIZE behind its keyword. -/
def matchRecognize (g : Grammar) : Rule Unit :=
  parenthesized do
    if ← keywords? ["PARTITION", "BY"] then g.terms
    let _ ← orderBy? g
    measures? g
    rowsPerMatch?
    afterMatch?
    keyword "PATTERN"
    parenthesized (rowPattern g)
    keyword "DEFINE"
    ignored <| commaSeparated do
      let _ ← name
      keyword "AS"
      g.anyTerm

end ScriptGate.Sql
