/-
  ScriptGate.Setting.Settings — the settings of the service.

  Settings come from variables, each with a default.  An address or a port to listen at that
  cannot be read counts as not set; the other settings are rejected then.
-/
import ScriptGate.Setting.Address
import ScriptGate.Setting.Connection
import ScriptGate.Text.Path

namespace ScriptGate.Setting

open ScriptGate.Text

/-- Where the service listens. -/
structure Server where
  /-- the address -/
  host : Ipv4
  /-- the port -/
  port : Nat
deriving DecidableEq, Repr

/-- How scripts are deployed. -/
structure Rollout where
  /-- the schema that is watched -/
  schema : String
  /-- how backups are made -/
  strategy : BackupStrategy
  /-- the directory that dumps go to -/
  backupDir : String
  /-- the program that dumps -/
  dumpTool : String
  /-- where the audit trail is kept -/
  auditPlace : AuditPlace
  /-- how many rows a preview shows -/
  previewLimit : Nat
  /-- after how many seconds a session is idle -/
  idleSeconds : Nat
deriving DecidableEq, Repr

/-- The settings of the service. -/
structure Settings where
  /-- where it listens -/
  server : Server
  /-- how it reaches the database -/
  connection : Connection
  /-- the pages that may talk to it -/
  origins : List String
  /-- how it deploys scripts -/
  rollout : Rollout
deriving DecidableEq, Repr

/-- The server that the variables describe. -/
def Server.ofEnvironment (env : Environment) : Server where
  host := ((env "HOST").bind fun s => Ipv4.ofChars? s.toList).getD ⟨0⟩
  port := env.numberOr "PORT" bound16 3000

/-- A list set apart by commas. -/
def originsOf (env : Environment) : List String :=
  match env "ALLOWED_ORIGINS" with
  | some given => (given.toList.splitOn ',').map fun cs => String.ofList (trim cs)
  | none => ["http://localhost:3001"]

namespace Rollout

/-- A choice, or its default. -/
def choice (read : String → Except Rejection α) (default : α) : Option String → Except Rejection α
  | some given => read given
  | none => .ok default

/-- The number in a variable, or its default. -/
def number (env : Environment) (name : String) (default : Nat) : Except Rejection Nat :=
  match env name with
  | some given =>
    match number? bound64 given.toList with
    | some n => .ok n
    | none => .error (.noNumber name given)
  | none => .ok default

/-- The directory that dumps go to if none is set. -/
def defaultDir (env : Environment) : String :=
  String.ofList (Path.join (env.textOr "HOME" ".").toList "sql-deployment-backups".toList)

/-- The rollout that the variables describe. -/
def ofEnvironment? (env : Environment) : Except Rejection Rollout := do
  let strategy ← choice BackupStrategy.ofText? .dump (env "BACKUP_STRATEGY")
  let auditPlace ← choice AuditPlace.ofText? .database (env "AUDIT_STORE")
  let previewLimit ← number env "PREVIEW_ROW_LIMIT" 100
  let idleSeconds ← number env "SESSION_IDLE_SECS" 1800
  return {
    schema := env.textOr "DB_SCHEMA" "public"
    strategy, auditPlace, previewLimit, idleSeconds
    backupDir := env.textOr "BACKUP_DIR" (defaultDir env)
    dumpTool := env.textOr "PG_DUMP_PATH" "pg_dump" }

end Rollout

/-- The settings that the variables describe. -/
def Settings.ofEnvironment? (env : Environment) : Except Rejection Settings := do
  let connection ← Connection.ofEnvironment? env
  let rollout ← Rollout.ofEnvironment? env
  return ⟨.ofEnvironment env, connection, originsOf env, rollout⟩

end ScriptGate.Setting
