/-
  ScriptGate.Proofs.Deployment.Simulation — deployments that rely on like services are alike.

  Two computations are alike under a relation of their states if related states lead to equal
  answers and to related states again.  Services are alike if their answers are; what comes of
  recording a step does not matter, so for it only the relation has to be kept.
  Main statements:
    - `Alike.bind`    — computations that are made of like parts are alike;
    - `perform_alike` — under like services every step comes to the same.
-/
import ScriptGate.Deployment.Workflow

namespace ScriptGate.Deployment

open ScriptGate.Audit ScriptGate.Schema ScriptGate.Script

/-! ## §1. Like computations -/

/-- Related states lead to equal answers and to related states. -/
def Alike (R : σ → τ → Prop) (m : StateM σ α) (n : StateM τ α) : Prop :=
  ∀ s t, R s t → (m s).1 = (n t).1 ∧ R (m s).2 (n t).2

section

variable {R : σ → τ → Prop}

theorem Alike.pure (a : α) : Alike R (Pure.pure a : StateM σ α) (Pure.pure a) :=
  fun _ _ h => ⟨rfl, h⟩

/-- Computations that are made of like parts are alike. -/
theorem Alike.bind {m : StateM σ α} {n : StateM τ α} {f : α → StateM σ β} {g : α → StateM τ β}
    (hm : Alike R m n) (hf : ∀ a, Alike R (f a) (g a)) : Alike R (m >>= f) (n >>= g) := by
  intro s t h
  obtain ⟨hanswer, hstate⟩ := hm s t h
  show (f (m s).1 (m s).2).1 = (g (n t).1 (n t).2).1 ∧ R (f (m s).1 (m s).2).2 (g (n t).1 (n t).2).2
  rw [hanswer]
  exact hf _ _ _ hstate

/-- The answer of the first part need not be alike where the second does not look at it. -/
theorem Alike.skip {m : StateM σ α} {n : StateM τ α'} {f : StateM σ β} {g : StateM τ β}
    (hm : ∀ s t, R s t → R (m s).2 (n t).2) (hf : Alike R f g) :
    Alike R (m >>= fun _ => f) (n >>= fun _ => g) :=
  fun s t h => hf _ _ (hm s t h)

/-! ## §2. Like services -/

/-- Services that give the same answers. -/
structure Services.Alike (R : σ → τ → Prop) (x : Services σ) (y : Services τ) : Prop where
  validate : ∀ script, Deployment.Alike R (x.validate script) (y.validate script)
  backup : Deployment.Alike R x.backup y.backup
  /-- the answer does not matter -/
  record : ∀ now kept s t, R s t → R (x.record now kept s).2 (y.record now kept t).2
  ask : ∀ call, Deployment.Alike R (x.database.ask call) (y.database.ask call)
  schema : x.schema = y.schema
  digest : x.digest = y.digest

variable {x : Services σ} {y : Services τ}

theorem capture_alike (h : x.Alike R y) (now : Moment) :
    Alike R (capture x.database x.schema now) (capture y.database y.schema now) := by
  unfold capture Database.columns
  rw [h.schema]
  exact (h.ask _).bind fun _ => .pure _

theorem runStatement_alike (h : x.Alike R y) (statement : List Char) :
    Alike R (runStatement x.database statement) (runStatement y.database statement) := by
  unfold runStatement
  by_cases hd : (kindOf statement).isDml = true
  · rw [if_pos hd, if_pos hd]
    exact h.ask (.counted statement)
  · rw [if_neg hd, if_neg hd]
    exact (h.ask (.execute statement)).bind fun _ => .pure _

theorem runAll_alike (h : x.Alike R y) (statements : List (List Char)) :
    ∀ done, Alike R (runAll x.database done statements) (runAll y.database done statements) := by
  induction statements with
  | nil => exact fun done => .pure _
  | cons statement rest ih =>
    intro done
    rw [runAll_def, runAll_def]
    refine (runStatement_alike h statement).bind fun answer => ?_
    cases answer with
    | ok rows => exact ih _
    | error fault => exact .pure _

/-! ## §3. Like steps -/

namespace Workflow

theorem finish_alike (h : x.Alike R y) (now : Moment) (w : Workflow) (step : Step)
    (result : Except Refusal Progress) :
    Alike R (finish x now w step result) (finish y now w step result) :=
  Alike.skip (h.record now _) (.pure _)

theorem tryValidate_alike (h : x.Alike R y) (w : Workflow) :
    Alike R (tryValidate x w) (tryValidate y w) := by
  unfold tryValidate
  by_cases hstage : w.stage ≠ .draft
  · rw [if_pos hstage, if_pos hstage]
    exact .pure _
  · rw [if_neg hstage, if_neg hstage]
    cases w.pendingScript with
    | none => exact .pure _
    | some script =>
      refine (h.validate script).bind fun answer => ?_
      cases answer with
      | ok _ => exact .pure _
      | error fault => exact .pure _

theorem tryBackup_alike (h : x.Alike R y) (w : Workflow) :
    Alike R (tryBackup x w) (tryBackup y w) := by
  unfold tryBackup
  by_cases hstage : w.stage ≠ .validated
  · rw [if_pos hstage, if_pos hstage]
    exact .pure _
  · rw [if_neg hstage, if_neg hstage]
    refine h.backup.bind fun answer => ?_
    cases answer with
    | ok location => exact .pure _
    | error fault => exact .pure _

theorem runBetweenSnapshots_alike (h : x.Alike R y) (now : Moment) (script : List Char) :
    Alike R (runBetweenSnapshots x now script) (runBetweenSnapshots y now script) := by
  rw [runBetweenSnapshots_def, runBetweenSnapshots_def]
  refine (capture_alike h now).bind fun before => ?_
  cases before with
  | error fault => exact .pure _
  | ok before =>
    refine (runAll_alike h (fragments script) .none).bind fun result => ?_
    cases result with
    | error failure => exact .pure _
    | ok impact =>
      refine (capture_alike h now).bind fun after => ?_
      cases after with
      | error fault => exact .pure _
      | ok after =>
        rw [h.digest]
        exact .pure _

theorem tryDeploy_alike (h : x.Alike R y) (now : Moment) (w : Workflow) :
    Alike R (tryDeploy x now w) (tryDeploy y now w) := by
  rw [tryDeploy_def, tryDeploy_def]
  by_cases hstage : w.stage ≠ .approved
  · rw [if_pos hstage, if_pos hstage]
    exact .pure _
  · rw [if_neg hstage, if_neg hstage]
    cases w.pendingScript with
    | none => exact .pure _
    | some script =>
      refine (runBetweenSnapshots_alike h now script).bind fun result => ?_
      cases result with
      | ok report => exact .pure _
      | error refusal => exact .pure _

/-- **Under like services every step comes to the same.** -/
theorem perform_alike (h : x.Alike R y) (now : Moment) (w : Workflow) (command : Command) :
    Alike R (perform x now w command) (perform y now w command) := by
  cases command with
  | setScript script => exact finish_alike h now _ _ _
  | reset => exact finish_alike h now _ _ _
  | validate => exact (tryValidate_alike h w).bind fun r => finish_alike h now r.2 _ r.1
  | backup => exact (tryBackup_alike h w).bind fun r => finish_alike h now r.2 _ r.1
  | deploy => exact (tryDeploy_alike h now w).bind fun r => finish_alike h now r.2 _ r.1
  | approve =>
    -- an approval asks nothing of others but to be recorded
    show Alike R (approve x now w) (approve y now w)
    unfold approve
    cases w.stage <;> exact finish_alike h now _ _ _

end Workflow

end

end ScriptGate.Deployment
