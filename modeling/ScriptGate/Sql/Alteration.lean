/-
  ScriptGate.Sql.Alteration — ALTER, DROP and TRUNCATE.

  Each rule starts behind the keyword of its statement.
-/
import ScriptGate.Sql.Definition

namespace ScriptGate.Sql

open Rule

/-! ## §1. ALTER TABLE -/

/-- A part or a partition of a table. -/
def partOrPartition (g : Grammar) : Rule Unit := do
  let _ ← oneOf ["PART", "PARTITION"]
  ignored g.anyTerm

/-- A projection of a table by its name, perhaps in one partition. -/
def projectionIn : Rule Unit := do
  ifExists?
  let _ ← name
  if ← keyword? "IN" then
    keyword "PARTITION"
    ignored name

/-- A new projection. -/
def newProjection (g : Grammar) : Rule Unit := do
  let _ ← ifNotExists?
  let _ ← name
  parenthesized do
    keyword "SELECT"
    let _ ← commaSeparated (selectItem g)
    groupBy? g
    if ← orderBy? g then interpolate? g

/-- What ADD adds. -/
def addition (g : Grammar) : Rule Unit := do
  if ← tableConstraint? g then return
  if ← keyword? "PROJECTION" then
    newProjection g
    return
  let _ ← ifNotExists?
  let partitions ← repeated (behind? "PARTITION" g.parenthesizedTerms)
  if partitions.isEmpty then
    let _ ← keyword? "COLUMN"
    let _ ← ifNotExists?
    columnDefinition g
    columnPosition?

/-- What RENAME renames. -/
def renamedTo : Rule Unit := do
  if ← keyword? "TO" then ignored path
  else
    let _ ← keyword? "COLUMN"
    let _ ← name
    keyword "TO"
    ignored name

/-- What DISABLE turns off. -/
def disabled : Rule Unit := do
  if ← keywords? ["ROW", "LEVEL", "SECURITY"] then return
  let _ ← oneOf ["RULE", "TRIGGER"]
  ignored name

/-- What ENABLE turns on. -/
def enabled : Rule Unit := do
  if ← keywords? ["ROW", "LEVEL", "SECURITY"] then return
  require (← anyKeywords? [["ALWAYS", "RULE"], ["ALWAYS", "TRIGGER"], ["REPLICA", "RULE"],
    ["REPLICA", "TRIGGER"], ["RULE"], ["TRIGGER"]])
  ignored name

/-- What DROP removes from a table. -/
def removal (g : Grammar) : Rule Unit := do
  if ← anyKeywords? [["IF", "EXISTS", "PARTITION"], ["PARTITION"]] then g.parenthesizedTerms
  else if ← keyword? "CONSTRAINT" then guardedName
  else if ← anyKeywords? [["PRIMARY", "KEY"], ["CLUSTERING", "KEY"]] then return
  else if ← keyword? "PROJECTION" then
    ifExists?
    ignored name
  else
    let _ ← keyword? "COLUMN"
    guardedName
where
  /-- A name with IF EXISTS and CASCADE or without. -/
  guardedName : Rule Unit := do
    ifExists?
    let _ ← name
    ignored (keyword? "CASCADE")

/-- The new definition of a column: its type, its options and its place. -/
def redefinedColumn (g : Grammar) : Rule Unit := do
  let _ ← g.wholeType
  while? (columnOption? g)
  columnPosition?

/-- What ALTER changes about a column. -/
def columnChange (g : Grammar) : Rule Unit := do
  let _ ← keyword? "COLUMN"
  let _ ← name
  if ← anyKeywords? [["SET", "NOT", "NULL"], ["DROP", "NOT", "NULL"], ["DROP", "DEFAULT"]] then
    return
  else if ← keywords? ["SET", "DEFAULT"] then ignored g.anyTerm
  else if ← keywords? ["SET", "DATA", "TYPE"] then ignored g.wholeType
  else
    keywords ["ADD", "GENERATED"]
    let _ ← anyKeywords? [["ALWAYS"], ["BY", "DEFAULT"]]
    keywords ["AS", "IDENTITY"]
    if ← sees (Token.isSign "(") then parenthesized sequenceOptions

/-- FREEZE and UNFREEZE: a part, perhaps under a name. -/
def frozenPart (g : Grammar) : Rule Unit := do
  partOrPartition g
  if ← keyword? "WITH" then
    keyword "NAME"
    ignored name

/-- One change of a table. -/
def tableChange (g : Grammar) : Rule Unit := do
  if ← keyword? "ADD" then addition g
  else if ← keyword? "RENAME" then renamedTo
  else if ← keyword? "DISABLE" then disabled
  else if ← keyword? "ENABLE" then enabled
  else if ← anyKeywords? [["CLEAR", "PROJECTION"], ["MATERIALIZE", "PROJECTION"]] then
    projectionIn
  else if ← keyword? "DROP" then removal g
  else if ← keyword? "PARTITION" then
    g.parenthesizedTerms
    keywords ["RENAME", "TO", "PARTITION"]
    g.parenthesizedTerms
  else if ← keyword? "CHANGE" then
    let _ ← keyword? "COLUMN"
    let _ ← name
    let _ ← name
    redefinedColumn g
  else if ← keyword? "MODIFY" then
    let _ ← keyword? "COLUMN"
    let _ ← name
    redefinedColumn g
  else if ← keyword? "ALTER" then columnChange g
  else if ← keyword? "SWAP" then
    keyword "WITH"
    ignored path
  else if ← keywords? ["OWNER", "TO"] then owner
  else if (← oneOf? ["ATTACH", "DETACH"]).isSome then partOrPartition g
  else if (← oneOf? ["FREEZE", "UNFREEZE"]).isSome then frozenPart g
  else if ← keywords? ["CLUSTER", "BY"] then g.parenthesizedTerms
  else if ← anyKeywords? [["SUSPEND", "RECLUSTER"], ["RESUME", "RECLUSTER"]] then return
  else require (← options? g ["SET", "TBLPROPERTIES"])

/-- ALTER TABLE behind TABLE. -/
def alterTable (g : Grammar) : Rule Outline := do
  ifExists?
  let _ ← keyword? "ONLY"
  let _ ← path
  onCluster?
  let _ ← commaSeparated (tableChange g)
  if ← anyKeywords? [["LOCATION"], ["SET", "LOCATION"]] then ignored name
  return .alterTable

/-! ## §2. Other objects -/

/-- ALTER VIEW behind VIEW. -/
def alterView (g : Grammar) : Rule Unit := do
  let _ ← path
  let _ ← columnList?
  let _ ← options? g ["WITH"]
  keyword "AS"
  ignored g.query

/-- ALTER INDEX behind INDEX. -/
def alterIndex : Rule Unit := do
  let _ ← path
  keywords ["RENAME", "TO"]
  ignored path

/-- ALTER POLICY behind POLICY. -/
def alterPolicy (g : Grammar) : Rule Unit := do
  let _ ← name
  keyword "ON"
  let _ ← path
  if ← keyword? "RENAME" then
    keyword "TO"
    ignored name
  else policyClauses g

/-- ALTER behind its keyword. -/
def alter (g : Grammar) : Rule Outline := do
  match ← oneOf ["TABLE", "VIEW", "INDEX", "POLICY"] with
  | "TABLE" => alterTable g
  | "VIEW" => alterView g; return .other
  | "INDEX" => alterIndex; return .other
  | _ => alterPolicy g; return .other

/-! ## §3. DROP and TRUNCATE -/

/-- CASCADE or RESTRICT, if one is there. -/
def dropBehavior? : Rule Unit := ignored (oneOf? ["CASCADE", "RESTRICT"])

/-- The objects that DROP removes by their names alone. -/
def droppedByName : List String :=
  ["TABLE", "VIEW", "INDEX", "ROLE", "SCHEMA", "DATABASE", "SEQUENCE", "STAGE", "TYPE"]

/-- DROP of objects by their names. -/
def dropByName (object : String) : Rule Outline := do
  ifExists?
  paths
  let cascade ← keyword? "CASCADE"
  let restrict ← keyword? "RESTRICT"
  let purge ← keyword? "PURGE"
  require !(cascade && restrict)
  require !(object == "ROLE" && (cascade || restrict || purge))
  return .drop

/-- DROP of an object that needs more than a name. -/
def dropOther (g : Grammar) (object : String) : Rule Unit := do
  ifExists?
  match object with
  | "POLICY" =>
    let _ ← name
    keyword "ON"
    let _ ← path
    dropBehavior?
  | "SECRET" =>
    let _ ← name
    ignored (behind? "FROM" nameOrToken)
  | "TRIGGER" =>
    let _ ← path
    keyword "ON"
    let _ ← path
    dropBehavior?
  | _ =>
    let _ ← commaSeparated (signature g)
    dropBehavior?

/-- DROP behind its keyword. -/
def drop (g : Grammar) : Rule Outline := do
  let _ ← keyword? "TEMPORARY"
  match ← oneOf? droppedByName with
  | some object => dropByName object
  | none =>
    dropOther g (← oneOf ["FUNCTION", "PROCEDURE", "POLICY", "SECRET", "TRIGGER"])
    return .other

/-- TRUNCATE behind its keyword. -/
def truncate (g : Grammar) : Rule Outline := do
  let _ ← keyword? "TABLE"
  let _ ← keyword? "ONLY"
  paths
  let _ ← behind? "PARTITION" g.parenthesizedTerms
  let _ ← anyKeywords? [["RESTART", "IDENTITY"], ["CONTINUE", "IDENTITY"]]
  dropBehavior?
  onCluster?
  return .truncate

end ScriptGate.Sql
