/-
  ScriptGate.Deployment.Workflow — a script on its way into a database.

  A script is validated, the database is backed up, two approvals follow, and then the script is
  run between two snapshots of the schema.  Every step is possible at any time; at a wrong stage it
  is refused and changes nothing.  Every step leaves one line in the log and one entry in the audit
  trail, and a trail that fails does not hold a deployment up.  Rows are added as the build adds
  them: `performWith checkedSum` is a step in a build that checks its sums, `perform` one in a build
  for release.
  Main statements:
    - `success_outcomeOf`   — a step that was taken is told to be, and no other;
    - `follows_performWith` — a step with checked sums does what the other one does, or panics.
-/
import ScriptGate.Audit.Trail
import ScriptGate.Deployment.Report
import ScriptGate.Deployment.Stage
import ScriptGate.Text.Trim

namespace ScriptGate.Deployment

open ScriptGate.Audit ScriptGate.Schema ScriptGate.Text

/-! ## §1. What a deployment relies on -/

/-- Everything that a deployment has done by others. -/
structure Services (σ : Type) where
  /-- is a script fit to be deployed? -/
  validate : List Char → StateM σ (Except Fault Unit)
  /-- makes a backup and tells where it is -/
  backup : StateM σ (Except Fault String)
  /-- adds to the audit trail -/
  record : Moment → Record → StateM σ (Except Fault Unit)
  /-- the database that is deployed to -/
  database : Database σ
  /-- the schema that is watched -/
  schema : String
  /-- what checksums are made with -/
  digest : Snapshot.Digest

/-- A snapshot of a schema. -/
def capture (db : Database σ) (schema : String) (now : Moment) :
    StateM σ (Except Fault Snapshot) := do
  return (← db.columns schema).map (.ofRows schema now.stamp)

/-! ## §2. The workflow -/

/-- A line of the log. -/
structure LogLine where
  /-- time of the day -/
  time : String
  /-- what happened -/
  message : String
deriving DecidableEq, Repr

/-- The line as it is shown. -/
def LogLine.text (l : LogLine) : String := l.time ++ " — " ++ l.message

/-- A deployment under way. -/
structure Workflow where
  /-- the script, once there is one -/
  script : Option (List Char)
  /-- where it stands -/
  stage : Stage
  /-- what happened since the last start -/
  log : List LogLine
  /-- the report on the last deployment -/
  report : Option Report
deriving DecidableEq, Repr

/-- A deployment without a script. -/
def Workflow.new : Workflow := ⟨none, .draft, [], none⟩

/-- What a step achieved. -/
structure Progress where
  /-- what the operator is told -/
  message : String
  /-- how it is recorded -/
  status : Status
  /-- what the audit trail keeps -/
  details : String
deriving DecidableEq, Repr

/-- Part of the tool that the audit trail names for the steps. -/
def auditSource : String := "Workflow"

namespace Workflow

/-- The script, if it holds more than blanks. -/
def pendingScript (w : Workflow) : Option (List Char) := w.script.filter fun s => !s.all isBlank

/-- The deployment back at its start, with this script. -/
def restarted (script : Option (List Char)) : Workflow := { new with script }

/-- The record of a step. -/
def recordOf (step : Step) : Except Refusal Progress → Record
  | .ok p => .of step.label auditSource p.status p.details
  | .error r => .of step.label auditSource .failed r.message

/-- The outcome of a step that left the deployment at a stage. -/
def outcomeOf (stage : Stage) (step : Step) : Except Refusal Progress → Outcome
  | .ok p => ⟨step, true, p.status, stage, p.message, none⟩
  | .error r => ⟨step, false, .failed, stage, r.message, some r.kind⟩

/-- Logs a step, records it and tells its outcome.  What comes of recording it does not matter. -/
def finish (services : Services σ) (now : Moment) (w : Workflow) (step : Step)
    (result : Except Refusal Progress) : StateM σ (Outcome × Workflow) := do
  let outcome := outcomeOf w.stage step result
  let _ ← services.record now (recordOf step result)
  return (outcome, { w with log := w.log ++ [⟨now.timeOfDay, outcome.message⟩] })

/-! ## §3. Steps -/

/-- Takes a script and starts over. -/
def setScript (services : Services σ) (now : Moment) (script : List Char) :
    StateM σ (Outcome × Workflow) :=
  finish services now (restarted (some script)) .start
    (.ok ⟨"Workflow initialized with SQL script", .draft, "Workflow started"⟩)

/-- Starts over with the same script. -/
def reset (services : Services σ) (now : Moment) (w : Workflow) :
    StateM σ (Outcome × Workflow) :=
  finish services now (restarted w.script) .reset
    (.ok ⟨"Workflow reset", .draft, "Workflow has been reset"⟩)

/-- The refusal to validate twice. -/
def revalidation (stage : Stage) : Refusal :=
  .precondition s!"SQL has already been validated (current state: {stage.name}). Reset the workflow to validate again."

/-- What validating comes to. -/
def tryValidate (services : Services σ) (w : Workflow) :
    StateM σ (Except Refusal Progress × Workflow) := do
  if w.stage ≠ .draft then return (.error (revalidation w.stage), w)
  match w.pendingScript with
  | none => return (.error (.input "No SQL found to validate."), w)
  | some script =>
    match ← services.validate script with
    | .error fault => return (.error (.validation fault.detail), w)
    | .ok () =>
      return (.ok ⟨"SQL validation passed successfully!", .success, "SQL validation passed"⟩,
        { w with stage := .validated })

/-- Validates the script. -/
def validate (services : Services σ) (now : Moment) (w : Workflow) :
    StateM σ (Outcome × Workflow) := do
  let (result, w) ← tryValidate services w
  finish services now w .validate result

/-- What a backup at this place achieves. -/
def backupProgress (location : String) : Progress :=
  ⟨"Full database backup created at: " ++ location, .success, "Backup created at " ++ location⟩

/-- What backing up comes to. -/
def tryBackup (services : Services σ) (w : Workflow) :
    StateM σ (Except Refusal Progress × Workflow) := do
  if w.stage ≠ .validated then
    return (.error (.precondition "Please validate SQL first before backup."), w)
  match ← services.backup with
  | .error fault => return (.error (.collaborator ("Backup failed: " ++ fault.detail)), w)
  | .ok location => return (.ok (backupProgress location), { w with stage := .backupCreated })

/-- Backs the database up. -/
def backup (services : Services σ) (now : Moment) (w : Workflow) :
    StateM σ (Outcome × Workflow) := do
  let (result, w) ← tryBackup services w
  finish services now w .backup result

/-- Asks for an approval or, where it has been asked for, gives it. -/
def approve (services : Services σ) (now : Moment) (w : Workflow) :
    StateM σ (Outcome × Workflow) :=
  match w.stage with
  | .backupCreated =>
    finish services now { w with stage := .approvalPending } .requestApproval
      (.ok ⟨"Approval requested. Ready for final approval.", .pending, "Approval requested"⟩)
  | .approvalPending =>
    finish services now { w with stage := .approved } .approve
      (.ok ⟨"Deployment approved. Ready to execute.", .approved, "Deployment approved"⟩)
  | other =>
    finish services now w .approve
      (.error (.precondition s!"Cannot approve at current workflow stage ({other.name})."))

/-- What a deployment with this report achieves. -/
def deployProgress (r : Report) : Progress :=
  ⟨s!"Deployment executed successfully. {r.impact.line}; {r.summary.total} schema change(s).",
    .success, "Deployment executed with impact captured: " ++ r.impact.line⟩

/-- The refusal of a script that failed: with nothing before it, or partially applied. -/
def runRefusal (f : Failure) : Refusal :=
  if f.isPartial then .partialExecution f else .collaborator ("Deployment failed: " ++ f.cause)

/-- The refusal without a snapshot to compare with. -/
def beforeRefusal (fault : Fault) : Refusal :=
  .collaborator
    ("Deployment failed: could not capture the pre-deployment snapshot: " ++ fault.detail)

/-- The refusal when all is applied and no snapshot follows. -/
def afterRefusal (impact : Impact) (fault : Fault) : Refusal :=
  .collaborator
    ("Script fully applied (" ++ impact.line ++ ") but the post-deployment snapshot failed: " ++
      fault.detail ++ ". Inspect the schema before retrying.")

section

variable {m : Type → Type} [Monad m] [MonadLiftT (StateM σ) m] (plus : Addition m)

/-- Runs a script between two snapshots. -/
def runBetweenSnapshotsWith (services : Services σ) (now : Moment) (script : List Char) :
    m (Except Refusal Report) := do
  match ← (capture services.database services.schema now : StateM σ _) with
  | .error fault => return .error (beforeRefusal fault)
  | .ok before =>
    match ← runWith plus services.database script with
    | .error failure => return .error (runRefusal failure)
    | .ok impact =>
      match ← (capture services.database services.schema now : StateM σ _) with
      | .error fault => return .error (afterRefusal impact fault)
      | .ok after => return .ok (.build services.digest now before after impact)

/-- What deploying comes to. -/
def tryDeployWith (services : Services σ) (now : Moment) (w : Workflow) :
    m (Except Refusal Progress × Workflow) := do
  if w.stage ≠ .approved then
    return (.error (.precondition "Deployment must be approved first."), w)
  match w.pendingScript with
  | none => return (.error (.input "No SQL script available to deploy."), w)
  | some script =>
    match ← runBetweenSnapshotsWith plus services now script with
    | .error refusal => return (.error refusal, w)
    | .ok report =>
      return (.ok (deployProgress report), { w with stage := .completed, report := some report })

/-- Deploys the script. -/
def deployWith (services : Services σ) (now : Moment) (w : Workflow) :
    m (Outcome × Workflow) := do
  let (result, w) ← tryDeployWith plus services now w
  (finish services now w .deploy result : StateM σ _)

end

/-- Runs a script between two snapshots where sums start over. -/
def runBetweenSnapshots (services : Services σ) (now : Moment) (script : List Char) :
    StateM σ (Except Refusal Report) :=
  runBetweenSnapshotsWith wrappingSum services now script

/-- What deploying comes to where sums start over. -/
def tryDeploy (services : Services σ) (now : Moment) (w : Workflow) :
    StateM σ (Except Refusal Progress × Workflow) :=
  tryDeployWith wrappingSum services now w

/-- Deploys the script where sums start over. -/
def deploy (services : Services σ) (now : Moment) (w : Workflow) :
    StateM σ (Outcome × Workflow) :=
  deployWith wrappingSum services now w

/-! ## §4. Runs -/

/-- What an operator can do. -/
inductive Command where
  | setScript (script : List Char)
  | validate
  | backup
  | approve
  | deploy
  | reset
deriving DecidableEq, Repr

/-- Carries a command out where sums start over. -/
def perform (services : Services σ) (now : Moment) (w : Workflow) :
    Command → StateM σ (Outcome × Workflow)
  | .setScript script => setScript services now script
  | .validate => validate services now w
  | .backup => backup services now w
  | .approve => approve services now w
  | .deploy => deploy services now w
  | .reset => reset services now w

/-- Carries a command out: nothing but a deployment adds. -/
def performWith {m : Type → Type} [Monad m] [MonadLiftT (StateM σ) m] (plus : Addition m)
    (services : Services σ) (now : Moment) (w : Workflow) : Command → m (Outcome × Workflow)
  | .deploy => deployWith plus services now w
  | command => (perform services now w command : StateM σ _)

/-! ## §5. Laws -/

/-- A step that was taken is told to be, and nothing is told of a refusal; a step that was not is
    told not to be, and why. -/
theorem success_outcomeOf (stage : Stage) (step : Step) (result : Except Refusal Progress) :
    (outcomeOf stage step result).success = result.isOk ∧
      ((outcomeOf stage step result).success = true ↔
        (outcomeOf stage step result).refused = none) := by
  cases result with
  | ok p => exact ⟨rfl, iff_of_true rfl rfl⟩
  | error refusal => exact ⟨rfl, iff_of_false Bool.false_ne_true nofun⟩

/-- A run between snapshots, written out where sums start over. -/
theorem runBetweenSnapshots_def (services : Services σ) (now : Moment) (script : List Char) :
    runBetweenSnapshots services now script = (do
      match ← capture services.database services.schema now with
      | .error fault => return .error (beforeRefusal fault)
      | .ok before =>
        match ← run services.database script with
        | .error failure => return .error (runRefusal failure)
        | .ok impact =>
          match ← capture services.database services.schema now with
          | .error fault => return .error (afterRefusal impact fault)
          | .ok after => return .ok (.build services.digest now before after impact)) := rfl

/-- What deploying comes to, written out where sums start over. -/
theorem tryDeploy_def (services : Services σ) (now : Moment) (w : Workflow) :
    tryDeploy services now w = (do
      if w.stage ≠ .approved then
        return (.error (.precondition "Deployment must be approved first."), w)
      match w.pendingScript with
      | none => return (.error (.input "No SQL script available to deploy."), w)
      | some script =>
        match ← runBetweenSnapshots services now script with
        | .error refusal => return (.error refusal, w)
        | .ok report =>
          return (.ok (deployProgress report),
            { w with stage := .completed, report := some report })) := rfl

theorem deploy_def (services : Services σ) (now : Moment) (w : Workflow) :
    deploy services now w = (do
      let (result, w) ← tryDeploy services now w
      finish services now w .deploy result) := rfl

theorem follows_runBetweenSnapshotsWith (services : Services σ) (now : Moment)
    (script : List Char) :
    Follows (runBetweenSnapshotsWith checkedSum services now script)
      (runBetweenSnapshots services now script) := by
  rw [runBetweenSnapshots_def]
  refine (Follows.lift _).bind fun looked => ?_
  rcases looked with fault | before
  · exact .pure _
  · refine (follows_runWith services.database script).bind fun ran => ?_
    rcases ran with failure | impact
    · exact .pure _
    · refine (Follows.lift _).bind fun looked => ?_
      rcases looked with fault | after <;> exact .pure _

theorem follows_tryDeployWith (services : Services σ) (now : Moment) (w : Workflow) :
    Follows (tryDeployWith checkedSum services now w) (tryDeploy services now w) := by
  rw [tryDeploy_def]
  unfold tryDeployWith
  split
  · exact .pure _
  · split
    · exact .pure _
    · refine (follows_runBetweenSnapshotsWith services now _).bind fun result => ?_
      rcases result with refusal | report <;> exact .pure _

/-- **A step with checked sums does what the other one does, or panics.** -/
theorem follows_performWith (services : Services σ) (now : Moment) (w : Workflow)
    (command : Command) :
    Follows (performWith checkedSum services now w command) (perform services now w command) := by
  cases command with
  | deploy => exact (follows_tryDeployWith services now w).bind fun r => .lift _
  | setScript script => exact .lift _
  | validate | backup | approve | reset => exact .lift _

end Workflow

end ScriptGate.Deployment
