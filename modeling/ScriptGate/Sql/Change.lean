/-
  ScriptGate.Sql.Change — INSERT, UPDATE, DELETE and MERGE.

  Each rule starts behind the keyword of its statement.
-/
import ScriptGate.Sql.Select

namespace ScriptGate.Sql

open Rule

/-! ## §1. Parts -/

/-- What to do when rows clash, if it is said. -/
def conflictClause? : Rule Unit :=
  ignored <| anyKeywords? [["OR", "REPLACE"], ["OR", "ROLLBACK"], ["OR", "ABORT"], ["OR", "FAIL"],
    ["OR", "IGNORE"], ["REPLACE"]]

/-- A column or a tuple of columns and its new value. -/
def assignment (g : Grammar) : Rule Unit := do
  if ← sees (Token.isSign "(") then parenthesized paths else ignored path
  sign "="
  ignored g.anyTerm

/-- Assignments with commas between. -/
def assignments (g : Grammar) : Rule Unit := ignored (commaSeparated (assignment g))

/-- The formats of a file. -/
def fileFormats : List String :=
  ["AVRO", "JSONFILE", "ORC", "PARQUET", "RCFILE", "SEQUENCEFILE", "TEXTFILE"]

/-! ## §2. INSERT -/

/-- What happens to a row that is there already, behind ON. -/
def onConflict (g : Grammar) : Rule Unit := do
  if ← keyword? "CONFLICT" then
    if ← keywords? ["ON", "CONSTRAINT"] then ignored path
    else ignored columnList?
    keyword "DO"
    if ← keyword? "NOTHING" then return
    keywords ["UPDATE", "SET"]
    assignments g
    ignored (behind? "WHERE" g.anyTerm)
  else
    keywords ["DUPLICATE", "KEY", "UPDATE"]
    assignments g

/-- The columns and the rows of an INSERT: whether columns are named, and how many rows VALUES
    lists. -/
def insertedRows (g : Grammar) : Rule (Bool × Nat) := do
  if ← keywords? ["DEFAULT", "VALUES"] then return (false, 0)
  let ts ← ahead
  let direct := (ts.head?.any (Token.isSign "(")) && (ts.drop 1).head?.any (Token.isKeyword "SELECT")
  let mut named := false
  if !direct then
    named ← columnList?
    if ← keyword? "PARTITION" then g.parenthesizedTerms
  match (← g.query).body with
  | .rows n => return (named, n)
  | _ => return (named, 0)

/-- An INSERT into a table. -/
def insertIntoTable (g : Grammar) : Rule Outline := do
  let _ ← keyword? "TABLE"
  let _ ← path
  let (named, rows) ← insertedRows g
  if ← keyword? "AS" then
    let _ ← path
    ignored columnList?
  ignored (behind? "ON" (onConflict g))
  returning? g
  return .insert named rows

/-- An INSERT into a directory. -/
def insertIntoDirectory (g : Grammar) : Rule Outline := do
  let _ ← text
  if ← keywords? ["STORED", "AS"] then ignored (oneOf fileFormats)
  let _ ← g.query
  return .other

/-- An INSERT. -/
def insert (g : Grammar) : Rule Outline := do
  conflictClause?
  let _ ← oneOf? ["LOW_PRIORITY", "DELAYED", "HIGH_PRIORITY"]
  let _ ← keyword? "IGNORE"
  let _ ← keyword? "OVERWRITE"
  let _ ← keyword? "INTO"
  let _ ← keyword? "LOCAL"
  if ← keyword? "DIRECTORY" then insertIntoDirectory g else insertIntoTable g

/-! ## §3. UPDATE and DELETE -/

/-- An UPDATE. -/
def update (g : Grammar) : Rule Outline := do
  conflictClause?
  let _ ← joinedSource g
  keyword "SET"
  assignments g
  let _ ← behind? "FROM" (joinedSource g)
  let selection ← behind? "WHERE" g.anyTerm
  returning? g
  return .update selection.isSome

/-- A DELETE. -/
def delete (g : Grammar) : Rule Outline := do
  let _ ← keyword? "FROM"
  let _ ← sources g
  let _ ← behind? "USING" (sources g)
  let selection ← behind? "WHERE" g.anyTerm
  returning? g
  let _ ← orderBy? g
  let limited ← limit? g
  return .delete selection.isSome limited

/-! ## §4. MERGE -/

/-- What to do with a row, behind THEN.  `insertable` tells whether the row stands in the source
    alone: such a row can only be inserted, and any other can only be changed or removed. -/
def mergeAction (g : Grammar) (insertable : Bool) : Rule Unit := do
  match ← oneOf ["UPDATE", "INSERT", "DELETE"] with
  | "UPDATE" =>
    require !insertable
    keyword "SET"
    assignments g
  | "DELETE" => require !insertable
  | _ =>
    require insertable
    let _ ← columnList?
    if !(← keyword? "ROW") then
      keyword "VALUES"
      ignored (valueRows g)

/-- A clause of a MERGE, unless the statement ends here. -/
def mergeClause? (g : Grammar) : Rule Bool := do
  if ← atEnd then return false
  if ← sees (Token.isSign ";") then return false
  keyword "WHEN"
  let unmatched ← keyword? "NOT"
  keyword "MATCHED"
  let inSource ← if unmatched then keywords? ["BY", "SOURCE"] else pure false
  if unmatched && !inSource then ignored (keywords? ["BY", "TARGET"])
  let _ ← behind? "AND" g.anyTerm
  keyword "THEN"
  mergeAction g (unmatched && !inSource)
  return true

/-- A MERGE. -/
def merge (g : Grammar) : Rule Outline := do
  let _ ← keyword? "INTO"
  let _ ← g.source
  keyword "USING"
  let _ ← g.source
  keyword "ON"
  let _ ← g.anyTerm
  while? (mergeClause? g)
  return .other

end ScriptGate.Sql
