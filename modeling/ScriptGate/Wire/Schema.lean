/-
  ScriptGate.Wire.Schema — the JSON forms of columns, changes and snapshots.

  A change is written with its kind and its detail.  It is read back from an object with these two
  fields, in any order and among others, or from a list of the two.

  Reading goes by the documented rules of derived decoders (library `serde`, its container
  attributes `tag` and `content` for changes): a record is read from an object by the names of its
  fields or from a list by their places; every field must be there, and one that is there twice is
  refused; fields of other names are passed over, however often they occur.  That a change survives
  its JSON form is shown in `ScriptGate.Proofs.Wire.Change`.
-/
import ScriptGate.Wire.Json
import ScriptGate.Schema.Change

namespace ScriptGate.Wire

open ScriptGate.Schema

/-! ## §1. Writing -/

/-- A column. -/
def columnJson (c : Column) : Json := .object [
  ("table", .text c.table), ("column", .text c.column), ("type", .text c.dataType),
  ("nullable", .bool c.nullable), ("defaultValue", .text c.default)]

/-- The kind of a change. -/
def changeKind : Change → String
  | .tableAdded _ => "table_added"
  | .tableRemoved _ => "table_removed"
  | .columnAdded _ => "column_added"
  | .columnRemoved _ => "column_removed"
  | .columnModified .. => "column_modified"
  | .unchanged _ => "no_changes"

/-- The detail of a change. -/
def changeDetail : Change → Json
  | .tableAdded t | .tableRemoved t => .text t
  | .columnAdded c | .columnRemoved c => columnJson c
  | .columnModified before after =>
    .object [("before", columnJson before), ("after", columnJson after)]
  | .unchanged schema => .object [("schema", .text schema)]

/-- A change. -/
def changeJson (c : Change) : Json :=
  .object [("kind", .text (changeKind c)), ("detail", changeDetail c)]

/-- The counters of a list of changes. -/
def summaryJson (s : Summary) : Json := .object [
  ("tablesAdded", .nat s.tablesAdded), ("tablesRemoved", .nat s.tablesRemoved),
  ("columnsAdded", .nat s.columnsAdded), ("columnsRemoved", .nat s.columnsRemoved),
  ("columnsModified", .nat s.columnsModified), ("totalChanges", .nat s.total)]

/-- A snapshot with its checksum. -/
def snapshotJson (digest : Snapshot.Digest) (s : Snapshot) : Json := .object [
  ("schema", .text s.schema), ("capturedAt", .text s.capturedAt),
  ("tables", .texts s.tables.names),
  ("columns", .object (s.columns.entries.map fun e => (e.1, columnJson e.2))),
  ("checksum", .text (s.checksum digest))]

/-! ## §2. Reading -/

/-- Five values, in the order of the fields of a column. -/
def columnOf? (table column dataType nullable default : Json) : Option Column := do
  return ⟨← table.text?, ← column.text?, ← dataType.text?, ← nullable.bool?, ← default.text?⟩

/-- Reads a column from an object with its fields, each of them once, or from a list of their
    values. -/
def column? : Json → Option Column
  | .array [t, c, d, n, v] => columnOf? t c d n v
  | .array _ => none
  | j => do
    columnOf? (← j.get? "table") (← j.get? "column") (← j.get? "type") (← j.get? "nullable")
      (← j.get? "defaultValue")

/-- The name in the place of a kind: a text, or an object that gives the name to nothing. -/
def kindName? : Json → Option String
  | .text s => some s
  | .object [(s, .null)] => some s
  | _ => none

/-- Reads a change from its kind and its detail. -/
def changeOf? (kind : String) (detail : Json) : Option Change :=
  match kind with
  | "table_added" => detail.text?.map .tableAdded
  | "table_removed" => detail.text?.map .tableRemoved
  | "column_added" => (column? detail).map .columnAdded
  | "column_removed" => (column? detail).map .columnRemoved
  | "column_modified" => do
    return .columnModified (← column? (← detail.get? "before")) (← column? (← detail.get? "after"))
  | "no_changes" => (detail.get? "schema").bind fun s => s.text?.map .unchanged
  | _ => none

/-- Reads a change. -/
def change? : Json → Option Change
  | .array [kind, detail] => do changeOf? (← kindName? kind) detail
  | .array _ => none
  | j => do changeOf? (← kindName? (← j.get? "kind")) (← j.get? "detail")

/-- Reads a list of changes; one that cannot be read spoils the list. -/
def changes? (j : Json) : Option (List Change) := do (← j.array?).mapM change?

end ScriptGate.Wire
