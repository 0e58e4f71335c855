/-
  ScriptGate.Backup.Dump — a backup that dumps a database into a file.

  The tool that dumps is asked for first, then the directory is made, then the tool is run.  The
  password travels beside the arguments, never among them.  What the machine does is left open.
  Main statement:
    - `dump_unavailable` — without the tool nothing is made and nothing is run.
-/
import ScriptGate.Fault
import ScriptGate.Setting.Connection
import ScriptGate.Text.Path
import ScriptGate.Text.Utf8

namespace ScriptGate.Backup

open ScriptGate.Setting ScriptGate.Text

/-! ## §1. The machine -/

/-- How a program is run. -/
structure Invocation where
  /-- the program -/
  program : String
  /-- its arguments -/
  arguments : List String
  /-- variables that are set for it -/
  environment : List (String × String)
deriving DecidableEq, Repr

/-- How a program ended. -/
inductive Ending where
  /-- it never started -/
  | unstarted (reason : String)
  /-- it ended by itself, with a status and what it complained about -/
  | exited (status : UInt8) (complaint : List UInt8)
  /-- it was ended -/
  | killed (complaint : List UInt8)
deriving DecidableEq, Repr

/-- A machine that programs run on. -/
structure Machine (σ : Type) where
  /-- does a program tell its version? -/
  answers : String → StateM σ Bool
  /-- makes a directory, with those around it, or tells why not -/
  makeDir : String → StateM σ (Except String Unit)
  /-- runs a program -/
  run : Invocation → StateM σ Ending

/-! ## §2. The dump -/

/-- The file that a database is dumped into. -/
def fileOf (dir database stamp : String) : String :=
  String.ofList (Path.join dir.toList (database ++ "_" ++ stamp ++ ".sql").toList)

/-- The variable that holds the password. -/
def passwordVariable : String := "PGPASSWORD"

/-- How a database is dumped into a file. -/
def invocation (tool file : String) (c : Connection) : Invocation where
  program := tool
  arguments := ["--host", c.host, "--port", toString c.port, "--username", c.user,
    "--no-password", "--file", file, c.database]
  environment := (passwordVariable, c.password) ::
    if c.requireTls then [("PGSSLMODE", Connection.require)] else []

/-- The fault of a tool that is not there. -/
def unavailable (tool : String) : Fault :=
  .backup (tool ++ " not detected. Install the PostgreSQL client tools or set PG_DUMP_PATH.")

/-- The fault of a directory that cannot be made. -/
def noDirectory (dir reason : String) : Fault :=
  .backup ("Cannot create backup directory " ++ dir ++ ": " ++ reason)

/-- The fault of a tool that ended otherwise than well. -/
def failedWith (status : String) (complaint : List UInt8) : Fault :=
  .backup ("Backup failed with exit code " ++ status ++ ": " ++
    String.ofList (trim (Utf8.lossy complaint)))

/-- What an ending means for a dump into a file. -/
def outcome (tool file : String) : Ending → Except Fault String
  | .unstarted reason => .error (.backup ("Failed to start " ++ tool ++ ": " ++ reason))
  | .exited status complaint =>
    if status = 0 then .ok file else .error (failedWith (toString status.toNat) complaint)
  | .killed complaint => .error (failedWith "signal" complaint)

/-- Dumps a database and tells into which file. -/
def dump (m : Machine σ) (tool dir : String) (c : Connection) (stamp : String) :
    StateM σ (Except Fault String) := do
  if !(← m.answers tool) then return .error (unavailable tool)
  match ← m.makeDir dir with
  | .error reason => return .error (noDirectory dir reason)
  | .ok () =>
    let file := fileOf dir c.database stamp
    return outcome tool file (← m.run (invocation tool file c))

/-! ## §3. Laws -/

/-- Without the tool nothing is made and nothing is run. -/
theorem dump_unavailable (m : Machine σ) (tool dir : String) (c : Connection) (stamp : String)
    (s : σ) (h : (m.answers tool s).1 = false) :
    dump m tool dir c stamp s = (.error (unavailable tool), (m.answers tool s).2) := by
  rcases hm : m.answers tool s with ⟨a, next⟩
  rw [hm] at h
  cases h
  simp only [dump, bind, StateT.bind, hm]
  rfl

end ScriptGate.Backup
