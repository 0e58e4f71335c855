/-
  ScriptGate.Proofs.Deployment.Clock — one deployment at two times.

  Two computations agree if their answers do, in whatever states they start.  Where the validator,
  the backup and the database answer by what they are asked alone, a deployment can be gone
  through twice, at other times and in another world: its outcomes are the same, and so is what is
  kept of it, but for the times in the log and on the report.
  Main statements:
    - `Agree.bind`    — computations that are made of agreeing parts agree;
    - `perform_agree` — every step of twin deployments comes to the same, and leaves twins.
-/
import ScriptGate.Proofs.Deployment.Simulation

namespace ScriptGate

/-- How many characters the time of the day is shown with: hours, minutes and seconds. -/
def timeWidth : Nat := 8

/-- The time of the day is shown as it should be. -/
def Moment.Legible (now : Moment) : Prop := now.timeOfDay.length = timeWidth

end ScriptGate

namespace ScriptGate.Deployment

open ScriptGate.Schema ScriptGate.Script

/-! ## §1. Agreeing computations -/

/-- The answers are related, in whatever states the computations start. -/
def Agree (Q : α → β → Prop) (m : StateM σ α) (n : StateM τ β) : Prop :=
  ∀ s t, Q (m s).1 (n t).1

section

variable {α α' β β' σ τ : Type} {P : α → α' → Prop} {Q : β → β' → Prop}

theorem Agree.pure {b : β} {b' : β'} (h : Q b b') :
    Agree Q (Pure.pure b : StateM σ β) (Pure.pure b' : StateM τ β') := fun _ _ => h

/-- **Computations that are made of agreeing parts agree.** -/
theorem Agree.bind {m : StateM σ α} {n : StateM τ α'} {f : α → StateM σ β} {g : α' → StateM τ β'}
    (hm : Agree P m n) (hf : ∀ a a', P a a' → Agree Q (f a) (g a')) :
    Agree Q (m >>= f) (n >>= g) := fun s t => hf _ _ (hm s t) _ _

/-- The first part does not matter where the second does not look at it. -/
theorem Agree.skip {m : StateM σ α} {n : StateM τ α'} {f : StateM σ β} {g : StateM τ β'}
    (hf : Agree Q f g) : Agree Q (m >>= fun _ => f) (n >>= fun _ => g) := fun _ _ => hf _ _

end

/-- Services that answer by what they are asked alone; what comes of recording does not matter. -/
structure Services.Steady (services : Services σ) : Prop where
  validate : ∀ script, Agree Eq (services.validate script) (services.validate script)
  backup : Agree Eq services.backup services.backup
  ask : ∀ call, Agree Eq (services.database.ask call) (services.database.ask call)

/-- They are alike in any two states. -/
theorem Services.Steady.alike {services : Services σ} (h : services.Steady) :
    services.Alike (fun _ _ => True) services where
  validate script s t _ := ⟨h.validate script s t, trivial⟩
  backup s t _ := ⟨h.backup s t, trivial⟩
  record _ _ _ _ _ := trivial
  ask call s t _ := ⟨h.ask call s t, trivial⟩
  schema := rfl
  digest := rfl

theorem Alike.agree {m n : StateM σ α} (h : Alike (fun _ _ => True) m n) : Agree Eq m n :=
  fun s t => (h s t trivial).1

/-! ## §2. Twins -/

/-- A line of the log without its time. -/
def LogLine.untimed (l : LogLine) : List Char := l.text.toList.drop timeWidth

/-- A report without its date. -/
def Report.undated (r : Report) : Report := { r with deployedAt := "" }

/-- Deployments that differ in the times of their logs and reports only. -/
structure Twins (w w' : Workflow) : Prop where
  script : w.script = w'.script
  stage : w.stage = w'.stage
  log : w.log.map LogLine.untimed = w'.log.map LogLine.untimed
  report : w.report.map Report.undated = w'.report.map Report.undated

theorem Twins.refl (w : Workflow) : Twins w w := ⟨rfl, rfl, rfl, rfl⟩

theorem Twins.pendingScript {w w' : Workflow} (h : Twins w w') :
    w.pendingScript = w'.pendingScript := congrArg (Option.filter _) h.script

theorem Twins.withStage {w w' : Workflow} (h : Twins w w') (stage : Stage) :
    Twins { w with stage } { w' with stage } := ⟨h.script, rfl, h.log, h.report⟩

/-- A line differs in its time only. -/
theorem LogLine.untimed_eq {now : Moment} (h : now.Legible) (message : String) :
    (LogLine.mk now.timeOfDay message).untimed = " — ".toList ++ message.toList := by
  have hwidth : now.timeOfDay.toList.length = timeWidth := by
    rw [String.length_toList]
    exact h
  rw [untimed, LogLine.text, String.toList_append, String.toList_append, List.append_assoc,
    ← hwidth, List.drop_left]

/-! ## §3. Steps -/

/-- Outcomes are the same, and deployments twins. -/
def Like (r r' : α × Workflow) : Prop := r.1 = r'.1 ∧ Twins r.2 r'.2

namespace Workflow

section

variable {services : Services σ} {now now' : Moment} {w w' : Workflow}

theorem finish_agree (hnow : now.Legible) (hnow' : now'.Legible) (h : Twins w w') (step : Step)
    (result : Except Refusal Progress) :
    Agree Like (finish services now w step result) (finish services now' w' step result) := by
  have houtcome : outcomeOf w.stage step result = outcomeOf w'.stage step result := by
    rw [h.stage]
  refine Agree.skip (.pure ⟨houtcome, h.script, h.stage, ?_, h.report⟩)
  rw [List.map_append, List.map_append, h.log, List.map_singleton, List.map_singleton,
    LogLine.untimed_eq hnow, LogLine.untimed_eq hnow', houtcome]

theorem tryValidate_agree (hs : services.Steady) (h : Twins w w') :
    Agree Like (tryValidate services w) (tryValidate services w') := by
  unfold tryValidate
  rw [h.stage, h.pendingScript]
  by_cases hstage : w'.stage ≠ .draft
  · rw [if_pos hstage, if_pos hstage]
    exact .pure ⟨rfl, h⟩
  · rw [if_neg hstage, if_neg hstage]
    cases w'.pendingScript with
    | none => exact .pure ⟨rfl, h⟩
    | some script =>
      refine (hs.validate script).bind ?_
      rintro answer _ rfl
      cases answer with
      | error fault => exact .pure ⟨rfl, h⟩
      | ok _ => exact .pure ⟨rfl, h.withStage .validated⟩

theorem tryBackup_agree (hs : services.Steady) (h : Twins w w') :
    Agree Like (tryBackup services w) (tryBackup services w') := by
  unfold tryBackup
  rw [h.stage]
  by_cases hstage : w'.stage ≠ .validated
  · rw [if_pos hstage, if_pos hstage]
    exact .pure ⟨rfl, h⟩
  · rw [if_neg hstage, if_neg hstage]
    refine hs.backup.bind ?_
    rintro answer _ rfl
    cases answer with
    | error fault => exact .pure ⟨rfl, h⟩
    | ok location => exact .pure ⟨rfl, h.withStage .backupCreated⟩

/-- Snapshots of the same rows. -/
def SameRows (schema : String) (now now' : Moment) (r r' : Except Fault Snapshot) : Prop :=
  ∃ rows : Except Fault (List Column),
    r = rows.map (.ofRows schema now.stamp) ∧ r' = rows.map (.ofRows schema now'.stamp)

theorem capture_agree (hs : services.Steady) (now now' : Moment) :
    Agree (SameRows services.schema now now')
      (capture services.database services.schema now)
      (capture services.database services.schema now') := by
  refine Agree.bind (hs.ask (.columns services.schema)) ?_
  rintro rows _ rfl
  exact .pure ⟨rows, rfl, rfl⟩

/-- Reports on the same, but for the date. -/
def SameReport (r r' : Except Refusal Report) : Prop :=
  r.map Report.undated = r'.map Report.undated

theorem runBetweenSnapshots_agree (hs : services.Steady) (now now' : Moment)
    (script : List Char) :
    Agree SameReport (runBetweenSnapshots services now script)
      (runBetweenSnapshots services now' script) := by
  rw [runBetweenSnapshots_def, runBetweenSnapshots_def]
  refine (capture_agree hs now now').bind ?_
  rintro _ _ ⟨before, rfl, rfl⟩
  cases before with
  | error fault => exact .pure rfl
  | ok before =>
    refine Agree.bind (runAll_alike hs.alike (fragments script) .none).agree ?_
    rintro result _ rfl
    cases result with
    | error failure => exact .pure rfl
    | ok impact =>
      -- the snapshots carry the times, but what changed between them is read from the rows
      refine (capture_agree hs now now').bind ?_
      rintro _ _ ⟨after, rfl, rfl⟩
      cases after with
      | error fault => exact .pure rfl
      | ok after => exact .pure rfl

theorem tryDeploy_agree (hs : services.Steady) (now now' : Moment) (h : Twins w w') :
    Agree Like (tryDeploy services now w) (tryDeploy services now' w') := by
  rw [tryDeploy_def, tryDeploy_def]
  rw [h.stage, h.pendingScript]
  by_cases hstage : w'.stage ≠ .approved
  · rw [if_pos hstage, if_pos hstage]
    exact .pure ⟨rfl, h⟩
  · rw [if_neg hstage, if_neg hstage]
    cases w'.pendingScript with
    | none => exact .pure ⟨rfl, h⟩
    | some script =>
      refine (runBetweenSnapshots_agree hs now now' script).bind ?_
      rintro (refusal | report) (refusal' | report') hsame
      · cases hsame
        exact .pure ⟨rfl, h⟩
      · cases hsame
      · cases hsame
      · have hundated : report.undated = report'.undated := Except.ok.inj hsame
        have hprogress : deployProgress report = deployProgress report' := by
          show deployProgress report.undated = deployProgress report'.undated
          rw [hundated]
        exact .pure ⟨congrArg Except.ok hprogress, h.script, rfl, h.log,
          congrArg some hundated⟩

/-- **Every step of twin deployments comes to the same, and leaves twins.** -/
theorem perform_agree (hs : services.Steady) (hnow : now.Legible) (hnow' : now'.Legible)
    (h : Twins w w') (command : Command) :
    Agree Like (perform services now w command) (perform services now' w' command) := by
  cases command with
  | setScript script =>
    -- a new script starts over, whatever the deployments were
    exact finish_agree hnow hnow' (.refl _) _ _
  | reset =>
    show Agree Like (finish services now (restarted w.script) _ _) _
    rw [h.script]
    exact finish_agree hnow hnow' (.refl _) _ _
  | validate =>
    refine (tryValidate_agree hs h).bind ?_
    rintro ⟨result, moved⟩ ⟨_, moved'⟩ ⟨rfl, hmoved⟩
    exact finish_agree hnow hnow' hmoved _ _
  | backup =>
    refine (tryBackup_agree hs h).bind ?_
    rintro ⟨result, moved⟩ ⟨_, moved'⟩ ⟨rfl, hmoved⟩
    exact finish_agree hnow hnow' hmoved _ _
  | deploy =>
    refine (tryDeploy_agree hs now now' h).bind ?_
    rintro ⟨result, moved⟩ ⟨_, moved'⟩ ⟨rfl, hmoved⟩
    exact finish_agree hnow hnow' hmoved _ _
  | approve =>
    show Agree Like (approve services now w) (approve services now' w')
    unfold approve
    rw [h.stage]
    cases w'.stage
    case backupCreated => exact finish_agree hnow hnow' (h.withStage _) _ _
    case approvalPending => exact finish_agree hnow hnow' (h.withStage _) _ _
    all_goals exact finish_agree hnow hnow' h _ _

end

end Workflow

end ScriptGate.Deployment
