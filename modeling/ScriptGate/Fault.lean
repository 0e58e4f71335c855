/-
  ScriptGate.Fault — why something could not be done.

  A fault keeps its kind and its detail apart: operators see the detail alone where the context
  already tells the kind.
-/

namespace ScriptGate

/-- Where a fault comes from. -/
inductive Fault.Kind where
  /-- the database refused -/
  | database
  /-- no connection could be had -/
  | pool
  /-- the input is not acceptable -/
  | validation
  /-- there is no such thing -/
  | notFound
  /-- the request makes no sense -/
  | badRequest
  /-- no backup could be made -/
  | backup
  /-- a statement failed -/
  | execution
  /-- the service itself is at fault -/
  | internal
  /-- the settings are unusable -/
  | configuration
deriving DecidableEq, Repr, Inhabited

/-- The words in front of the detail. -/
def Fault.Kind.label : Fault.Kind → String
  | database => "Database error"
  | pool => "Pool error"
  | validation => "Validation error"
  | notFound => "Not found"
  | badRequest => "Bad request"
  | backup => "Backup failed"
  | execution => "Execution failed"
  | internal => "Internal error"
  | configuration => "Configuration error"

/-- A fault: its kind, and in words what happened. -/
structure Fault where
  /-- where it comes from -/
  kind : Fault.Kind
  /-- what happened -/
  detail : String
deriving DecidableEq, Repr, Inhabited

namespace Fault

/-- The fault on one line. -/
def message (f : Fault) : String := f.kind.label ++ ": " ++ f.detail

/-- A fault of the input. -/
def validation (detail : String) : Fault := ⟨.validation, detail⟩

/-- A thing that is not there. -/
def notFound (detail : String) : Fault := ⟨.notFound, detail⟩

/-- A request that makes no sense. -/
def badRequest (detail : String) : Fault := ⟨.badRequest, detail⟩

/-- A backup that failed. -/
def backup (detail : String) : Fault := ⟨.backup, detail⟩

/-- A fault of the service itself. -/
def internal (detail : String) : Fault := ⟨.internal, detail⟩

end Fault

end ScriptGate
