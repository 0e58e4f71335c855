/-
  ScriptGate.Setting.Choice — what settings may say, and what they may not.

  A choice is read from any of its names, small or capital and with blanks around it, and written
  with the first of them.
  Main statements:
    - `BackupStrategy.ofText?_name`, `AuditPlace.ofText?_name` — a choice reads back from its name.
-/
import ScriptGate.Text.Case
import ScriptGate.Text.Trim

namespace ScriptGate.Setting

open ScriptGate.Text

/-! ## §1. Rejections -/

/-- Why settings are unusable. -/
inductive Rejection where
  /-- the database is at no location -/
  | noLocation
  /-- the location of the database names no machine -/
  | noMachine
  /-- the location of the database names no database -/
  | noDatabase
  /-- no way to make a backup -/
  | noStrategy (given : String)
  /-- no place for the audit trail -/
  | noPlace (given : String)
  /-- no number where there must be one -/
  | noNumber (name given : String)
deriving DecidableEq, Repr

namespace Rejection

/-- What is wrong. -/
def reason : Rejection → String
  | noLocation => "Invalid DATABASE_URL format (expected postgresql://...)"
  | noMachine => "Missing host in DATABASE_URL"
  | noDatabase => "Missing database name in DATABASE_URL"
  | noStrategy given =>
    "Unknown BACKUP_STRATEGY '" ++ given ++ "' (expected pg_dump or schema_copy)"
  | noPlace given => "Unknown AUDIT_STORE '" ++ given ++ "' (expected postgres or memory)"
  | noNumber name given => name ++ " must be a number, got '" ++ given ++ "'"

/-- The rejection on one line. -/
def message (r : Rejection) : String := "Invalid configuration value: " ++ r.reason

end Rejection

/-! ## §2. Choices -/

/-- A name without blanks around it, in small letters. -/
def plainName (given : String) : String := lowerString (trimString given)

/-- How a backup is made. -/
inductive BackupStrategy where
  /-- the whole database is dumped into a file -/
  | dump
  /-- the tables are copied inside the database -/
  | copy
deriving DecidableEq, Repr, Inhabited

namespace BackupStrategy

/-- The name of a strategy. -/
def name : BackupStrategy → String
  | dump => "pg_dump"
  | copy => "schema_copy"

/-- Reads a strategy. -/
def ofText? (given : String) : Except Rejection BackupStrategy :=
  match plainName given with
  | "pg_dump" | "pgdump" | "dump" => .ok dump
  | "schema_copy" | "copy" => .ok copy
  | other => .error (.noStrategy other)

theorem plainName_name (s : BackupStrategy) : plainName s.name = s.name := by
  cases s <;> decide +kernel

/-- A strategy reads back from its name. -/
theorem ofText?_name (s : BackupStrategy) : ofText? s.name = .ok s := by
  rw [ofText?, plainName_name]; cases s <;> rfl

end BackupStrategy

/-- Where the audit trail is kept. -/
inductive AuditPlace where
  /-- in a table of the database -/
  | database
  /-- in memory -/
  | memory
deriving DecidableEq, Repr, Inhabited

namespace AuditPlace

/-- The name of a place. -/
def name : AuditPlace → String
  | database => "postgres"
  | memory => "memory"

/-- Reads a place. -/
def ofText? (given : String) : Except Rejection AuditPlace :=
  match plainName given with
  | "postgres" | "postgresql" | "database" => .ok database
  | "memory" => .ok memory
  | other => .error (.noPlace other)

theorem plainName_name (p : AuditPlace) : plainName p.name = p.name := by
  cases p <;> decide +kernel

/-- A place reads back from its name. -/
theorem ofText?_name (p : AuditPlace) : ofText? p.name = .ok p := by
  rw [ofText?, plainName_name]; cases p <;> rfl

end AuditPlace

end ScriptGate.Setting
