/-
  ScriptGate.Database.Call — what is asked of a database.

  A database is whatever answers the calls, with a state of its own: an answer may depend on every
  call before it.  A fault is an answer, too.
-/
import ScriptGate.Fault
import ScriptGate.Schema.Column
import ScriptGate.Wire.Json

namespace ScriptGate

namespace Database

open ScriptGate.Schema

/-! ## §1. Calls -/

/-- A row of a result: its fields. -/
abbrev Row := List (String × Wire.Json)

/-- One call. -/
inductive Call where
  /-- the columns of a schema -/
  | columns (schema : String)
  /-- run a statement for its effect -/
  | execute (sql : List Char)
  /-- run a statement and count the rows that it touches -/
  | counted (sql : List Char)
  /-- run a query and read its first rows -/
  | query (sql : List Char) (limit : Nat)
deriving DecidableEq, Repr

/-- What a call answers when it succeeds. -/
def Call.Answer : Call → Type
  | columns _ => List Column
  | execute _ => Unit
  | counted _ => UInt64
  | query .. => List Row

end Database

/-! ## §2. Databases -/

/-- A database with its state. -/
structure Database (σ : Type) where
  /-- answers a call -/
  ask : (c : Database.Call) → StateM σ (Except Fault c.Answer)

namespace Database

open ScriptGate.Schema

/-- The columns of a schema. -/
def columns (db : Database σ) (schema : String) : StateM σ (Except Fault (List Column)) :=
  db.ask (.columns schema)

/-- Runs a statement for its effect. -/
def execute (db : Database σ) (sql : List Char) : StateM σ (Except Fault Unit) :=
  db.ask (.execute sql)

/-- Runs a statement and counts the rows that it touches. -/
def counted (db : Database σ) (sql : List Char) : StateM σ (Except Fault UInt64) :=
  db.ask (.counted sql)

/-- Runs a query and reads its first rows. -/
def query (db : Database σ) (sql : List Char) (limit : Nat) :
    StateM σ (Except Fault (List Row)) :=
  db.ask (.query sql limit)

/-- Has a statement planned, but not run. -/
def explain (db : Database σ) (sql : List Char) : StateM σ (Except Fault Unit) :=
  db.execute ("EXPLAIN ".toList ++ sql)

/-! ## §3. Logs -/

/-- The database with a log of its calls, the last one first. -/
def logged (db : Database σ) : Database (σ × List Call) where
  ask c := fun s =>
    let (answer, next) := db.ask c s.1
    (answer, (next, c :: s.2))

/-- The database beside any other state. -/
def beside (db : Database σ) : Database (σ × ρ) where
  ask c := fun s =>
    let (answer, next) := db.ask c s.1
    (answer, (next, s.2))

end Database

end ScriptGate
