/-
  ScriptGate.Proofs.Deployment.Advance — a step goes one stage on or changes nothing.

  Every stage but the last has one command that leads on from it.  Given at its stage, this command
  either takes the deployment one stage on, or something that it relies on fails and the
  deployment stays as it was; given at any other stage it is turned away before it asks anything.
  Main statements:
    - `Move.stays`        — a refused step leaves the deployment as it was;
    - `Move.advances`     — a step that is taken goes one stage on;
    - `Move.turnedAway`   — a step at the wrong stage asks nothing;
    - `attempt_advances`  — what a step comes to, whatever the services answer.
-/
import ScriptGate.Proofs.Deployment.Gate

namespace ScriptGate.Deployment

/-! ## §1. The order of the stages -/

/-- The stage that a command leads to, if this is the stage for it. -/
def Stage.next? : Stage → Workflow.Command → Option Stage
  | draft, .validate => some .validated
  | validated, .backup => some .backupCreated
  | backupCreated, .approve => some .approvalPending
  | approvalPending, .approve => some .approved
  | approved, .deploy => some .completed
  | _, _ => none

namespace Workflow

/-- The commands that can lead on. -/
def Command.leading : List Command := [.validate, .backup, .approve, .deploy]

section

variable {schema : String} {digest : Schema.Snapshot.Digest} {now : Moment} {w w' : Workflow}
  {command : Command} {asked : List Contact}

/-! ## §2. Moves along the stages -/

/-- **A refused step leaves the deployment as it was.** -/
theorem Move.stays {refusal : Refusal}
    (h : Move schema digest now w command (.error refusal) w' asked) : w' = w := by
  cases h <;> rfl

/-- **A step that is taken goes one stage on.** -/
theorem Move.advances {p : Progress} (hleading : command ∈ Command.leading)
    (h : Move schema digest now w command (.ok p) w' asked) :
    w.stage.next? command = some w'.stage := by
  cases h with
  | setScript => exact absurd hleading (by simp [Command.leading])
  | reset => exact absurd hleading (by decide)
  | validated hstage | saved hstage | requested hstage | approved hstage | deployed hstage =>
    rw [hstage]
    rfl

/-- **A step at the wrong stage is turned away and asks nothing.** -/
theorem Move.turnedAway {result : Except Refusal Progress} (hleading : command ∈ Command.leading)
    (hnext : w.stage.next? command = none)
    (h : Move schema digest now w command result w' asked) :
    (∃ reason, result = .error (.precondition reason)) ∧ asked = [] := by
  -- every other move is made at the stage for it
  cases h with
  | misplaced => exact ⟨⟨_, rfl⟩, rfl⟩
  | setScript => exact absurd hleading (by simp [Command.leading])
  | reset => exact absurd hleading (by decide)
  | nothingToValidate hstage | rejected hstage | validated hstage | unsaved hstage
  | saved hstage | requested hstage | approved hstage | nothingToDeploy hstage | unseen hstage
  | failed hstage | unconfirmed hstage | deployed hstage =>
    rw [hstage] at hnext
    exact absurd hnext (Option.some_ne_none _)

end

/-! ## §3. What a step comes to -/

/-- A line of the log ends in its message. -/
theorem message_suffix (line : LogLine) : line.message.toList <:+ line.text.toList := by
  refine ⟨(line.time ++ " — ").toList, ?_⟩
  show _ = (line.time ++ " — " ++ line.message).toList
  simp only [String.toList_append]

/-- **What a step comes to.**  A step that fails changes nothing but the log, which gains one line
    that ends in the message; a step that succeeds goes one stage on; and a step at the wrong stage
    asks nothing but to be recorded.  The outcome tells the stage behind the step. -/
theorem attempt_advances (services : Services σ) (now : Moment) (w : Workflow) (s : σ) :
    ∀ command ∈ Command.leading,
      let e := (attempt services now w command s).1
      let w' := (attempt services now w command s).2.1
      (perform services now w command s).1 = (e.outcome, w') ∧
      e.outcome.stage = w'.stage ∧
      (e.succeeded = false →
        w'.stage = w.stage ∧ w'.script = w.script ∧ w'.report = w.report ∧
        (∃ line : LogLine, w'.log = w.log ++ [line] ∧
          e.outcome.message.toList <:+ line.text.toList) ∧
        e.outcome.status = .failed ∧ e.outcome.refused.isSome = true) ∧
      (e.succeeded = true →
        w.stage.next? command = some w'.stage ∧ e.outcome.refused = none) ∧
      (w.stage.next? command = none →
        e.outcome.refused = some .precondition ∧ ∃ kept, e.contacts = [.record kept]) := by
  intro command hleading e w'
  obtain ⟨result, moved, asked, s', hmove, heq⟩ := attempt_move services now w command s
  have he : e = ⟨command, outcomeOf moved.stage (command.step w.stage) result,
      asked ++ [.record (recordOf (command.step w.stage) result)]⟩ := congrArg Prod.fst heq
  have hw' : w' = logged now moved (command.step w.stage) result :=
    congrArg (fun a => a.2.1) heq
  have hstage : w'.stage = moved.stage := by rw [hw']; rfl
  -- a step moves the deployment or leaves it, and the log comes behind the move
  refine ⟨congrArg Prod.fst (perform_attempt services now w command s), ?_, ?_, ?_, ?_⟩
  · rw [he, hstage]
    cases result <;> rfl
  · intro hfailed
    rw [he] at hfailed ⊢
    cases result with
    | ok p => exact Bool.noConfusion hfailed
    | error refusal =>
      obtain rfl := hmove.stays
      rw [hw']
      have hline := message_suffix ⟨now.timeOfDay, refusal.message⟩
      exact ⟨rfl, rfl, rfl, ⟨_, rfl, hline⟩, rfl, rfl⟩
  · intro hdone
    rw [he] at hdone ⊢
    cases result with
    | error refusal => exact Bool.noConfusion hdone
    | ok p =>
      rw [hstage]
      exact ⟨hmove.advances hleading, rfl⟩
  · intro hnext
    obtain ⟨⟨reason, hresult⟩, hasked⟩ := hmove.turnedAway hleading hnext
    rw [he, hresult, hasked]
    exact ⟨rfl, _, rfl⟩

/-- A new deployment has nothing to validate and is not the one to back up, and a validated one is
    backed up. -/
theorem advances_by_backup :
    let valid : Workflow := { new with stage := .validated }
    Command.validate ∈ Command.leading ∧ Command.backup ∈ Command.leading ∧
    (attempt agreeable default new .validate ()).1.succeeded = false ∧
    (attempt agreeable default new .validate ()).2.1.stage = .draft ∧
    Stage.draft.next? .backup = none ∧
    (∃ kept, (attempt agreeable default new .backup ()).1.contacts = [.record kept]) ∧
    (attempt agreeable default valid .backup ()).1.succeeded = true ∧
    Stage.validated.next? .backup
      = some (attempt agreeable default valid .backup ()).2.1.stage := by
  intro valid
  have hvalidate : Command.validate ∈ Command.leading := by decide
  have hbackup : Command.backup ∈ Command.leading := by decide
  have hfailed : (attempt agreeable default new .validate ()).1.succeeded = false := by rfl
  have hdone : (attempt agreeable default valid .backup ()).1.succeeded = true := by rfl
  obtain ⟨_, _, hstays, _⟩ := attempt_advances agreeable default new () _ hvalidate
  obtain ⟨_, _, _, _, hturned⟩ := attempt_advances agreeable default new () _ hbackup
  obtain ⟨_, _, _, hadvances, _⟩ := attempt_advances agreeable default valid () _ hbackup
  exact ⟨hvalidate, hbackup, hfailed, (hstays hfailed).1, rfl, (hturned rfl).2, hdone,
    (hadvances hdone).1⟩

end Workflow

end ScriptGate.Deployment
