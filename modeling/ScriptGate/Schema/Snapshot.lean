/-
  ScriptGate.Schema.Snapshot — the tables and columns of a schema at one moment.

  A snapshot is folded from the rows of the catalog.  Its checksum is a digest of its columns in
  order, so that two snapshots can be compared by two short texts.  The digest is a parameter.
  Main statements:
    - `contains_tables_ofRows` — every row's table is in the snapshot, and no other;
    - `checksum_congr`         — equal columns have equal checksums, whatever the digest.
-/
import ScriptGate.Collection.SortedMap
import ScriptGate.Schema.Column

namespace ScriptGate.Schema

open ScriptGate.Collection

/-! ## §1. Snapshots -/

/-- A schema at one moment. -/
structure Snapshot where
  /-- name of the schema -/
  schema : String
  /-- when it was taken -/
  capturedAt : String
  /-- names of the tables -/
  tables : NameSet
  /-- columns under their keys -/
  columns : SortedMap Column

namespace Snapshot

/-- The snapshot of these rows.  Of several rows with one key the last one counts. -/
def ofRows (schema capturedAt : String) (rows : List Column) : Snapshot where
  schema := schema
  capturedAt := capturedAt
  tables := .ofNames (rows.map Column.table)
  columns := .ofList Column.key id rows

/-- Is there such a table? -/
def hasTable (s : Snapshot) (table : String) : Bool := s.tables.contains table

/-- The columns of a table, in the order of their keys. -/
def tableColumns (s : Snapshot) (table : String) : List Column :=
  s.columns.values.filter fun c => c.table == table

/-! ## §2. Checksums -/

/-- A function from texts to short texts that tell them apart. -/
abbrev Digest := String → String

/-- A column under its key, on a line of its own. -/
def columnLine (key : String) (c : Column) : String :=
  key ++ ":" ++ c.dataType ++ "|" ++ (if c.nullable then "true" else "false") ++ "|" ++
    c.default ++ "\n"

/-- All columns, line by line. -/
def serialised (s : Snapshot) : String :=
  String.join (s.columns.entries.map fun e => columnLine e.1 e.2)

/-- The checksum of a snapshot. -/
def checksum (digest : Digest) (s : Snapshot) : String := digest s.serialised

/-! ## §3. Laws -/

theorem contains_foldl_insert (names : List String) (m : NameSet) (k : String) :
    (names.foldl (fun m n => m.insert n ()) m).contains k =
      (m.contains k || names.contains k) := by
  induction names generalizing m with
  | nil => simp
  | cons n rest ih =>
    rw [List.foldl_cons, ih]
    by_cases h : k = n <;> simp [SortedMap.contains, SortedMap.get?_insert, h]

/-- Every row's table is in the snapshot, and no other. -/
theorem contains_tables_ofRows (schema capturedAt : String) (rows : List Column) (t : String) :
    (ofRows schema capturedAt rows).hasTable t = (rows.map Column.table).contains t := by
  have h := contains_foldl_insert (rows.map Column.table) SortedMap.empty t
  simpa [hasTable, ofRows, NameSet.ofNames, SortedMap.ofList, SortedMap.contains] using h

/-- Equal columns have equal checksums, whatever the digest. -/
theorem checksum_congr (digest : Digest) {s t : Snapshot} (h : s.columns = t.columns) :
    s.checksum digest = t.checksum digest := by
  rw [checksum, checksum, serialised, serialised, h]

end Snapshot

end ScriptGate.Schema
