/-
  ScriptGate.Proofs.Deployment.Reached — what holds of every deployment that can come about.

  A deployment comes about by visits: each gives one command, at some time, and finds everything
  that the deployment relies on in some state.  Whatever the visits are, the deployment has a
  report exactly when it is completed; beyond the first stage there is a script with statements,
  since the review accepts no other; and the report of a completed deployment is the one of the
  visit that deployed this script, made from the two snapshots that were taken then.
  Main statements:
    - `deploy_captures`  — a deployment that succeeds reports on what it found;
    - `Sound.visit`      — a visit keeps a deployment sound;
    - `reached_sound`    — what holds of a deployment that visits lead to.
-/
import Mathlib.Data.List.Induction
import ScriptGate.Proofs.Deployment.Account
import ScriptGate.Proofs.Deployment.Advance
import ScriptGate.Review.Validation

namespace ScriptGate.Deployment

open ScriptGate.Schema ScriptGate.Script ScriptGate.Statement ScriptGate.Text

/-! ## §1. Visits -/

/-- A visit to a deployment. -/
structure Visit (σ : Type) where
  /-- when it is -/
  now : Moment
  /-- what is to be done -/
  command : Workflow.Command
  /-- the state that everything else is in -/
  world : σ

/-- The deployment that visits lead to, from a new one on. -/
def reached (services : Services σ) (visits : List (Visit σ)) : Workflow :=
  visits.foldl (fun w v => (w.perform services v.now v.command v.world).1.2) .new

theorem reached_snoc (services : Services σ) (earlier : List (Visit σ)) (v : Visit σ) :
    reached services (earlier ++ [v])
      = ((reached services earlier).perform services v.now v.command v.world).1.2 := by
  unfold reached
  rw [List.foldl_append]
  rfl

/-- The services, with the review of scripts for their validator. -/
def Services.reviewed (services : Services σ) (parser : Parser) (planner : Database σ) :
    Services σ :=
  { services with validate := Review.validate parser planner }

/-- The validator accepts no script without statements. -/
def Services.Discerning (services : Services σ) : Prop :=
  ∀ script s, (services.validate script s).1 = .ok () → fragments script ≠ []

/-- The review is discerning. -/
theorem discerning_reviewed (services : Services σ) (parser : Parser) (planner : Database σ) :
    (services.reviewed parser planner).Discerning := by
  intro script s hok hnone
  have hfault : (Review.validate parser planner script s).1 = .error Review.emptyFault := by
    unfold Review.validate
    rw [hnone]
    rfl
  have hboth : Except.ok () = Except.error Review.emptyFault := hok.symm.trans hfault
  cases hboth

/-! ## §2. What a deployment finds -/

/-- What is found when a script is deployed from the state `s` on: the schema before it, what it
    does, and the schema behind it. -/
def Captures (services : Services σ) (now : Moment) (script : List Char) (s : σ)
    (before : Snapshot) (impact : Impact) (after : Snapshot) : Prop :=
  ∃ s₁ s₂ s₃, capture services.database services.schema now s = (.ok before, s₁) ∧
    run services.database script s₁ = (.ok impact, s₂) ∧
    capture services.database services.schema now s₂ = (.ok after, s₃)

namespace Workflow

/-- A report is on what was found. -/
theorem captures_of_report {services : Services σ} {now : Moment} {script : List Char} {s : σ}
    {report : Report} (h : (runBetweenSnapshots services now script s).1 = .ok report) :
    ∃ before impact after, Captures services now script s before impact after ∧
      report = .build services.digest now before after impact := by
  -- a report comes out only if the two looks and the run succeed
  rw [runBetweenSnapshots_eq] at h
  rcases h₁ : capture services.database services.schema now s with ⟨_ | before, s₁⟩
  · rw [h₁] at h
    cases h
  · rw [h₁] at h
    dsimp only at h
    rcases h₂ : run services.database script s₁ with ⟨_ | impact, s₂⟩
    · rw [h₂] at h
      cases h
    · rw [h₂] at h
      dsimp only at h
      rcases h₃ : capture services.database services.schema now s₂ with ⟨_ | after, s₃⟩
      · rw [h₃] at h
        cases h
      · rw [h₃] at h
        injection h with hreport
        exact ⟨before, impact, after, ⟨s₁, s₂, s₃, h₁, h₂, h₃⟩, hreport.symm⟩

/-- **A deployment that succeeds reports on what it found.** -/
theorem deploy_captures {services : Services σ} {now : Moment} {w : Workflow} {s : σ}
    {script : List Char} (hstage : w.stage = .approved) (hp : w.pendingScript = some script)
    (h : (perform services now w .deploy s).1.1.success = true) :
    ∃ before impact after, Captures services now script s before impact after ∧
      (perform services now w .deploy s).1.2.report
        = some (.build services.digest now before after impact) := by
  have hperform : perform services now w .deploy s
      = finish services now (tryDeploy services now w s).1.2 .deploy
          (tryDeploy services now w s).1.1 (tryDeploy services now w s).2 := rfl
  -- an approved script is run between two snapshots
  have htry : tryDeploy services now w s
      = match runBetweenSnapshots services now script s with
        | (.error refusal, s) => ((.error refusal, w), s)
        | (.ok report, s) =>
          ((.ok (deployProgress report),
            { w with stage := .completed, report := some report }), s) := by
    rw [tryDeploy_def]
    rw [if_neg (not_not_intro hstage), hp]
    simp only [bind, StateT.bind]
    rcases runBetweenSnapshots services now script s with ⟨_ | _, _⟩ <;> rfl
  rw [hperform, htry] at h ⊢
  rcases hbetween : runBetweenSnapshots services now script s with ⟨refusal | report, s'⟩
  · rw [hbetween] at h
    exact Bool.noConfusion h
  · obtain ⟨before, impact, after, hcaptures, hreport⟩ :=
      captures_of_report (congrArg Prod.fst hbetween)
    refine ⟨before, impact, after, hcaptures, ?_⟩
    rw [← hreport]
    rfl

/-- A script that is validated is one that the validator accepts. -/
theorem validate_accepts {services : Services σ} {now : Moment} {w : Workflow} {s : σ}
    {script : List Char} (hstage : w.stage = .draft) (hp : w.pendingScript = some script)
    (h : (perform services now w .validate s).1.1.success = true) :
    (services.validate script s).1 = .ok () := by
  have hperform : perform services now w .validate s
      = finish services now (tryValidate services w s).1.2 .validate
          (tryValidate services w s).1.1 (tryValidate services w s).2 := rfl
  rcases hvalidate : services.validate script s with ⟨fault | _, s'⟩
  · have htry : (tryValidate services w s).1.1 = .error (.validation fault.detail) := by
      unfold tryValidate
      rw [if_neg (not_not_intro hstage), hp]
      simp only [bind, StateT.bind, hvalidate]
      rfl
    rw [hperform, htry] at h
    exact Bool.noConfusion h
  · rfl

/-- A deployment lacks input only where no script is pending. -/
theorem Move.lacksInput {schema : String} {digest : Snapshot.Digest} {now : Moment}
    {w w' : Workflow} {refusal : Refusal} {asked : List Contact}
    (h : Move schema digest now w .deploy (.error refusal) w' asked)
    (hkind : refusal.kind = .input) : w.stage = .approved ∧ w.pendingScript = none := by
  cases h with
  | nothingToDeploy hstage hp => exact ⟨hstage, hp⟩
  | misplaced | unseen | unconfirmed => cases hkind
  | @failed _ failure =>
    unfold runRefusal at hkind
    by_cases hpartial : failure.isPartial = true
    · rw [if_pos hpartial] at hkind
      cases hkind
    · rw [if_neg hpartial] at hkind
      cases hkind

end Workflow

/-! ## §3. Soundness -/

/-- One of the visits deployed the script of `w`, and the report is the one that it left, on what
    it found. -/
def ReportsOn (services : Services σ) (visits : List (Visit σ)) (w : Workflow) : Prop :=
  ∃ earlier v later script before impact after, visits = earlier ++ v :: later ∧
    v.command = .deploy ∧ (reached services earlier).stage = .approved ∧
    (reached services (earlier ++ [v])).report = w.report ∧ w.pendingScript = some script ∧
    Captures services v.now script v.world before impact after ∧
    w.report = some (.build services.digest v.now before after impact)

/-- What holds of the deployment that visits lead to. -/
structure Sound (services : Services σ) (visits : List (Visit σ)) (w : Workflow) : Prop where
  reported : w.report.isSome = true ↔ w.stage = .completed
  pending : w.stage ≠ .draft → ∃ script, w.pendingScript = some script ∧ fragments script ≠ []
  reports : w.stage = .completed → ReportsOn services visits w

theorem Sound.new (services : Services σ) : Sound services [] .new :=
  ⟨by decide, fun h => absurd rfl h, fun h => absurd h (by decide)⟩

theorem Sound.restarted (services : Services σ) (visits : List (Visit σ))
    (script : Option (List Char)) : Sound services visits (Workflow.restarted script) :=
  ⟨by simp [Workflow.restarted, Workflow.new], fun h => absurd rfl h,
    fun h => absurd h (by simp [Workflow.restarted, Workflow.new])⟩

theorem ReportsOn.snoc {services : Services σ} {visits : List (Visit σ)} {w : Workflow}
    (h : ReportsOn services visits w) (v : Visit σ) : ReportsOn services (visits ++ [v]) w := by
  obtain ⟨earlier, d, later, script, before, impact, after, rfl, hd⟩ := h
  refine ⟨earlier, d, later ++ [v], script, before, impact, after, ?_, hd⟩
  rw [List.append_assoc]
  rfl

theorem Sound.snoc {services : Services σ} {visits : List (Visit σ)} {w : Workflow}
    (h : Sound services visits w) (v : Visit σ) : Sound services (visits ++ [v]) w :=
  ⟨h.reported, h.pending, fun hstage => (h.reports hstage).snoc v⟩

/-- The log has no part in it. -/
theorem Sound.logged {services : Services σ} {visits : List (Visit σ)} {w : Workflow}
    (h : Sound services visits w) (now : Moment) (step : Step)
    (result : Except Refusal Progress) : Sound services visits (w.logged now step result) :=
  ⟨h.reported, h.pending, h.reports⟩

/-- Between the first stage and the last a deployment goes on with its script and without a
    report. -/
theorem Sound.onward {services : Services σ} {visits : List (Visit σ)} {w : Workflow}
    (h : Sound services visits w) {stage : Stage} (hw : w.stage ≠ .completed)
    (hstage : stage ≠ .completed)
    (hpending : ∃ script, w.pendingScript = some script ∧ fragments script ≠ []) :
    Sound services visits { w with stage } := by
  refine ⟨?_, fun _ => hpending, fun hdone => absurd hdone hstage⟩
  have hnone : ¬ w.report.isSome = true := fun hsome => hw (h.reported.1 hsome)
  exact ⟨fun hsome => absurd hsome hnone, fun hdone => absurd hdone hstage⟩

/-- **A visit keeps a deployment sound.** -/
theorem Sound.visit {services : Services σ} (hservices : services.Discerning)
    {visits : List (Visit σ)} (h : Sound services visits (reached services visits))
    (v : Visit σ) :
    Sound services (visits ++ [v]) (reached services (visits ++ [v])) := by
  rw [reached_snoc]
  obtain ⟨now, command, s⟩ := v
  obtain ⟨result, moved, asked, hmove, heq⟩ :=
    Workflow.perform_move services now (reached services visits) command s
  have hdone : result.isOk = true →
      ((reached services visits).perform services now command s).1.1.success = true := by
    intro hok
    rw [heq, (Workflow.success_outcomeOf _ _ _).1, hok]
  have hreport : ((reached services visits).perform services now command s).1.2.report
      = moved.report := by
    rw [heq]
    rfl
  dsimp only
  rw [heq]
  apply Sound.logged
  -- a refused step changes nothing, and the others are taken one by one
  cases hmove with
  | setScript => exact Sound.restarted services _ _
  | reset => exact Sound.restarted services _ _
  | misplaced | nothingToValidate | rejected | unsaved | nothingToDeploy | unseen | failed
  | unconfirmed => exact h.snoc _
  | @validated script _ hstage hp =>
    have haccepts := Workflow.validate_accepts hstage hp (hdone rfl)
    refine (h.snoc _).onward ?_ (by decide) ⟨script, hp, hservices script s haccepts⟩
    rw [hstage]
    decide
  | saved hstage | requested hstage | approved hstage =>
    refine (h.snoc _).onward ?_ (by decide) (h.pending ?_)
    · rw [hstage]
      decide
    · rw [hstage]
      decide
  | @deployed script _ _ _ hstage hp =>
    refine ⟨⟨fun _ => rfl, fun _ => rfl⟩, fun _ => h.pending ?_, fun _ => ?_⟩
    · rw [hstage]
      decide
    · obtain ⟨before, impact, after, hcaptures, hreport'⟩ :=
        Workflow.deploy_captures hstage hp (hdone rfl)
      rw [hreport] at hreport'
      refine ⟨visits, ⟨now, .deploy, s⟩, [], script, before, impact, after, rfl, rfl, hstage, ?_,
        hp, hcaptures, hreport'⟩
      rw [reached_snoc]
      exact hreport

/-- Every deployment that visits lead to is sound. -/
theorem sound_reached {services : Services σ} (hservices : services.Discerning)
    (visits : List (Visit σ)) : Sound services visits (reached services visits) := by
  induction visits using List.reverseRecOn with
  | nil => exact .new services
  | append_singleton earlier v ih => exact ih.visit hservices v

/-! ## §4. What holds of every deployment -/

/-- The pending script is the script, and it is more than blanks. -/
theorem pendingScript_eq_some {w : Workflow} {script : List Char}
    (h : w.pendingScript = some script) : w.script = some script ∧ script.all isBlank = false := by
  obtain ⟨hscript, hblank⟩ := Option.filter_eq_some_iff.1 h
  exact ⟨hscript, by simpa using hblank⟩

/-- **What holds of a deployment that visits lead to**, if scripts are reviewed before they are
    deployed: it has a report exactly when it is completed; beyond the first stage it has a script
    with statements, so that deploying never fails for lack of one; and a completed deployment has
    run all its statements and reports the difference of the two snapshots that were taken around
    them. -/
theorem reached_sound (services : Services σ) (parser : Parser) (planner : Database σ)
    (visits : List (Visit σ)) :
    let gate := services.reviewed parser planner
    let w := reached gate visits
    (w.report.isSome = true ↔ w.stage = .completed) ∧
    (w.stage ≠ .draft →
      ∃ script, w.script = some script ∧ script.all isBlank = false ∧ fragments script ≠ []) ∧
    (∀ now s, (w.perform gate now .deploy s).1.1.refused ≠ some .input) ∧
    (w.stage = .completed →
      ∃ script report, w.script = some script ∧ w.report = some report ∧
        report.impact.executed = fragments script ∧ report.changes ≠ [] ∧
        report.summary = .ofChanges report.changes ∧
        ∃ earlier v later before after, visits = earlier ++ v :: later ∧ v.command = .deploy ∧
          (reached gate earlier).stage = .approved ∧
          (reached gate (earlier ++ [v])).report = some report ∧
          Captures gate v.now script v.world before report.impact after ∧
          report.changes = diff before after) := by
  intro gate w
  have hsound : Sound gate visits w :=
    sound_reached (discerning_reviewed services parser planner) visits
  refine ⟨hsound.reported, ?_, ?_, ?_⟩
  · intro hstage
    obtain ⟨script, hp, hsome⟩ := hsound.pending hstage
    obtain ⟨hscript, hblank⟩ := pendingScript_eq_some hp
    exact ⟨script, hscript, hblank, hsome⟩
  · intro now s hinput
    obtain ⟨result, moved, asked, hmove, heq⟩ := Workflow.perform_move gate now w .deploy s
    rw [heq] at hinput
    cases result with
    | ok p => exact absurd hinput (by simp [Workflow.outcomeOf])
    | error refusal =>
      obtain ⟨hstage, hnone⟩ := hmove.lacksInput (Option.some.inj hinput)
      -- an approved deployment has a script
      obtain ⟨script, hp, _⟩ := hsound.pending (by rw [hstage]; decide)
      rw [hnone] at hp
      cases hp
  · intro hstage
    obtain ⟨earlier, v, later, script, before, impact, after, hvisits, hdeploy, happroved, hleft,
      hp, hcaptures, hreport⟩ := hsound.reports hstage
    have hexecuted : impact.executed = fragments script := by
      obtain ⟨_, _, _, _, hrun, _⟩ := hcaptures
      exact executed_run (congrArg Prod.fst hrun)
    exact ⟨script, _, (pendingScript_eq_some hp).1, hreport, hexecuted, diff_ne_nil before after,
      rfl, earlier, v, later, before, after, hvisits, hdeploy, happroved, hleft.trans hreport,
      hcaptures, rfl⟩

/-- Visits that deploy a script and come back once more. -/
def fullVisits : List (Visit Unit) :=
  (Workflow.Command.setScript "DELETE FROM t; DROP TABLE t".toList :: Stage.completed.path ++
    [Workflow.Command.approve]).map (⟨default, ·, ()⟩)

/-- Services that review scripts with a parser that reads nothing. -/
def reviewedServices : Services Unit := agreeable.reviewed (fun _ => none) agreeable.database

/-- They lead to a deployment that is completed and has run both statements. -/
theorem completed_sound :
    (reached reviewedServices fullVisits).stage = .completed ∧
    (reached reviewedServices fullVisits).stage ≠ .draft ∧
    ∃ script report, (reached reviewedServices fullVisits).script = some script ∧
      (reached reviewedServices fullVisits).report = some report ∧
      report.impact.executed = fragments script ∧ fragments script ≠ [] := by
  have hcompleted : (reached reviewedServices fullVisits).stage = .completed := by decide +kernel
  have hdraft : (reached reviewedServices fullVisits).stage ≠ .draft := by
    rw [hcompleted]
    decide
  obtain ⟨_, hpending, _, hreports⟩ :=
    reached_sound agreeable (fun _ => none) agreeable.database fullVisits
  obtain ⟨script, hscript, _, hsome⟩ := hpending hdraft
  obtain ⟨script', report, hscript', hreport, hexecuted, _⟩ := hreports hcompleted
  have hsame : script = script' := Option.some.inj (hscript.symm.trans hscript')
  exact ⟨hcompleted, hdraft, script', report, hscript', hreport, hexecuted, hsame ▸ hsome⟩

end ScriptGate.Deployment
