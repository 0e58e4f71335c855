/-
  ScriptGate.Service.Answer — what the service answers.

  An answer is a status and a body.  Faults of the input are told as they are; of the others the
  body names the kind, and the detail beside it.
  Main statement:
    - `statusOf_outcome` — exactly the steps that were not refused are answered with 200.
-/
import ScriptGate.Deployment.Stage
import ScriptGate.Fault
import ScriptGate.Wire.Json

namespace ScriptGate.Service

open ScriptGate.Deployment ScriptGate.Wire

/-! ## §1. Answers -/

/-- An answer. -/
structure Answer where
  /-- the status -/
  status : Nat
  /-- the body -/
  body : Json

namespace Answer

/-- An answer without a body. -/
def bare (status : Nat) : Answer := ⟨status, .null⟩

/-- A success. -/
def ok (fields : List (String × Json)) : Answer := ⟨200, .object (("success", .bool true) :: fields)⟩

end Answer

/-! ## §2. Faults -/

/-- The status of a fault. -/
def statusOf : Fault.Kind → Nat
  | .database | .backup | .internal | .configuration => 500
  | .pool => 503
  | .validation | .badRequest => 400
  | .notFound => 404
  | .execution => 422

/-- The code of a fault. -/
def codeOf : Fault.Kind → String
  | .database => "DATABASE_ERROR"
  | .pool => "POOL_EXHAUSTED"
  | .validation => "VALIDATION_ERROR"
  | .notFound => "NOT_FOUND"
  | .badRequest => "BAD_REQUEST"
  | .backup => "BACKUP_FAILED"
  | .execution => "EXECUTION_FAILED"
  | .internal => "INTERNAL_ERROR"
  | .configuration => "CONFIG_ERROR"

/-- What stands for the detail of a fault that is not of the input. -/
def headline? : Fault.Kind → Option String
  | .database => some "A database error occurred"
  | .pool => some "Database connection pool exhausted"
  | .backup => some "Backup could not be created"
  | .internal => some "An internal error occurred"
  | .configuration => some "A configuration error occurred"
  | .validation | .notFound | .badRequest | .execution => none

/-- The answer to a fault. -/
def Answer.ofFault (f : Fault) : Answer where
  status := statusOf f.kind
  body := .object ([("success", .bool false),
    ("message", .text ((headline? f.kind).getD f.detail))] ++
    Json.field? "error" ((headline? f.kind).map fun _ => .text f.detail) ++
    [("code", .text (codeOf f.kind))])

/-- The answer, or the answer to the fault. -/
def Answer.ofResult : Except Fault Answer → Answer
  | .ok answer => answer
  | .error fault => .ofFault fault

/-! ## §3. Outcomes -/

/-- The status of a step that was refused. -/
def statusOfRefusal : Refusal.Kind → Nat
  | .input | .validation => 400
  | .precondition => 409
  | .partialExecution => 422
  | .collaborator => 500

/-- The status of a step. -/
def statusOfOutcome (o : Outcome) : Nat := (o.refused.map statusOfRefusal).getD 200

/-! ## §4. Laws -/

/-- Exactly the steps that were not refused are answered with 200. -/
theorem statusOf_outcome (o : Outcome) : statusOfOutcome o = 200 ↔ o.refused = none := by
  unfold statusOfOutcome
  rcases o.refused with _ | kind
  · exact iff_of_true rfl rfl
  · cases kind <;> exact iff_of_false (by decide) nofun

end ScriptGate.Service
