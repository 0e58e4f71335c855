/-
  ScriptGate.Backup.Copy — a backup that copies a schema inside the database.

  Every table of the schema is copied, structure and rows, into a schema beside it; an older copy
  of the table is dropped first.
  Main statement:
    - `plan_length` — three statements per table, behind the one that makes the schema.
-/
import ScriptGate.Collection.SortedMap
import ScriptGate.Database.Call
import ScriptGate.Sql.Written

namespace ScriptGate.Backup

open ScriptGate.Collection ScriptGate.Schema ScriptGate.Sql.Written

/-! ## §1. The plan -/

/-- The schema that the copies go to. -/
def copySchema (schema : String) : String := schema ++ "_backup"

/-- The tables of a schema, each once, in order. -/
def tablesOf (columns : List Column) : List String :=
  (NameSet.ofNames (columns.map Column.table)).names

/-- The statements that copy one table. -/
def copyTable (target source : List Char) (table : String) : List (List Char) :=
  [dropTableIfExists target table.toList, createTableLike target source table.toList,
    copyRows target source table.toList]

/-- The statements that copy these tables. -/
def plan (schema : String) (tables : List String) : List (List Char) :=
  createSchema (copySchema schema).toList ::
    tables.flatMap (copyTable (copySchema schema).toList schema.toList)

/-! ## §2. The backup -/

/-- Runs statements in order, up to the first that fails. -/
def executeAll (db : Database σ) : List (List Char) → StateM σ (Except Fault Unit)
  | [] => return .ok ()
  | statement :: rest => do
    match ← db.execute statement with
    | .error fault => return .error fault
    | .ok () => executeAll db rest

/-- A fault of a copy. -/
def copyFault (cause : Fault) : Fault := .backup cause.detail

/-- Copies a schema and tells where the copy is. -/
def copy (db : Database σ) (schema : String) : StateM σ (Except Fault String) := do
  match ← db.columns schema with
  | .error fault => return .error fault
  | .ok columns =>
    let done ← executeAll db (plan schema (tablesOf columns))
    return (done.mapError copyFault).map fun () => copySchema schema

/-! ## §3. Laws -/

/-- Three statements per table, behind the one that makes the schema. -/
theorem plan_length (schema : String) (tables : List String) :
    (plan schema tables).length = 3 * tables.length + 1 := by
  simp only [plan, List.length_cons]
  induction tables with
  | nil => rfl
  | cons t rest ih =>
    simp only [List.flatMap_cons, List.length_append, copyTable, List.length_cons,
      List.length_nil] at ih ⊢
    omega

end ScriptGate.Backup
