/-
  ScriptGate.Deployment.Stage — the stages of a deployment, its steps and their outcomes.

  A step either succeeds or is refused, and a refusal has one of five kinds.  What an operator
  reads and what the audit trail keeps are made from these values.
-/
import ScriptGate.Audit.Entry
import ScriptGate.Deployment.Impact

namespace ScriptGate.Deployment

open ScriptGate.Audit

/-! ## §1. Stages and steps -/

/-- Where a deployment stands. -/
inductive Stage where
  | draft
  | validated
  | backupCreated
  | approvalPending
  | approved
  | completed
deriving DecidableEq, Repr, Inhabited

/-- The name of a stage. -/
def Stage.name : Stage → String
  | draft => "DRAFT"
  | validated => "VALIDATED"
  | backupCreated => "BACKUP_CREATED"
  | approvalPending => "APPROVAL_PENDING"
  | approved => "APPROVED"
  | completed => "COMPLETED"

/-- A step of a deployment, as the audit trail records it. -/
inductive Step where
  | start
  | validate
  | backup
  | requestApproval
  | approve
  | deploy
  | reset
deriving DecidableEq, Repr

/-- What a step is called. -/
def Step.label : Step → String
  | start => "Workflow Initialized"
  | validate => "Validate SQL"
  | backup => "Backup Database"
  | requestApproval => "Request Approval"
  | approve => "Approve Deployment"
  | deploy => "Deploy to Database"
  | reset => "Reset"

/-! ## §2. Refusals -/

/-- Why a step was not taken. -/
inductive Refusal where
  /-- there is nothing to work on -/
  | input (reason : String)
  /-- the deployment is at another stage -/
  | precondition (reason : String)
  /-- the script is not acceptable -/
  | validation (reason : String)
  /-- the backup, a snapshot or the first statement failed -/
  | collaborator (reason : String)
  /-- a statement failed behind others that are committed -/
  | partialExecution (failure : Failure)
deriving DecidableEq, Repr

/-- The kind of a refusal. -/
inductive Refusal.Kind where
  | input
  | precondition
  | validation
  | collaborator
  | partialExecution
deriving DecidableEq, Repr

/-- The name of a kind. -/
def Refusal.Kind.name : Refusal.Kind → String
  | input => "input"
  | precondition => "precondition"
  | validation => "validation"
  | collaborator => "collaborator"
  | partialExecution => "partial_execution"

namespace Refusal

/-- The kind of a refusal. -/
def kind : Refusal → Kind
  | input _ => .input
  | precondition _ => .precondition
  | validation _ => .validation
  | collaborator _ => .collaborator
  | partialExecution _ => .partialExecution

/-- What the operator is told about a partial failure. -/
def partialMessage (f : Failure) : String :=
  "Deployment partially applied: statement \x60" ++ String.ofList f.statement ++ "\x60 failed: " ++
    f.cause ++ ". " ++ toString f.applied.executed.length ++
    " earlier statement(s) remain committed (" ++ f.applied.line ++ ")."

/-- What the operator is told. -/
def message : Refusal → String
  | input reason | precondition reason | validation reason | collaborator reason => reason
  | partialExecution f => partialMessage f

end Refusal

/-! ## §3. Outcomes -/

/-- What a step came to. -/
structure Outcome where
  /-- the step -/
  step : Step
  /-- was it taken? -/
  success : Bool
  /-- how it ended -/
  status : Status
  /-- the stage behind it -/
  stage : Stage
  /-- what the operator is told -/
  message : String
  /-- why it was refused, if it was -/
  refused : Option Refusal.Kind
deriving DecidableEq, Repr

end ScriptGate.Deployment
