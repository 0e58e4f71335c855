/-
  ScriptGate.Proofs.Deployment.Gate — nothing reaches the database without passing the gate.

  The stage of a deployment sums up its history: the steps that succeeded since the deployment was
  last started over are those on the way to the stage, and the pending script is the one that was
  validated.  So a deployment that calls the database has one validation, one backup and
  two approvals behind it, in that order, and no deployment.
  Main statements:
    - `summed_attempt`   — every event keeps the stage in step with the history;
    - `deployment_gated` — a deployment that calls the database is gated, and so is every
                           deployment behind another.
-/
import ScriptGate.Proofs.Deployment.History

namespace ScriptGate.Deployment

open ScriptGate.Script ScriptGate.Schema

/-! ## §1. The way to a stage -/

/-- The commands on the way to a stage. -/
def Stage.path : Stage → List Workflow.Command
  | draft => []
  | validated => [.validate]
  | backupCreated => [.validate, .backup]
  | approvalPending => [.validate, .backup, .approve]
  | approved => [.validate, .backup, .approve, .approve]
  | completed => [.validate, .backup, .approve, .approve, .deploy]

/-- The commands that succeeded. -/
def taken (events : List Event) : List Workflow.Command :=
  (events.filter Event.succeeded).map Event.command

theorem taken_append (a b : List Event) : taken (a ++ b) = taken a ++ taken b := by
  unfold taken
  rw [List.filter_append, List.map_append]

theorem mem_taken {e : Event} {events : List Event} (he : e ∈ events)
    (hs : e.succeeded = true) : e.command ∈ taken events :=
  List.mem_map.2 ⟨e, List.mem_filter.2 ⟨he, hs⟩, rfl⟩

/-! ## §2. Since the last start -/

/-- `since` is what happened since the deployment was last started over. -/
def SinceStart (past since : List Event) : Prop :=
  ∃ before start, past = before ++ start :: since ∧ start.restarts = true ∧
    ∀ e ∈ since, e.restarts = false

theorem SinceStart.restart {past : List Event} {e : Event} (he : e.restarts = true) :
    SinceStart (past ++ [e]) [] :=
  ⟨past, e, rfl, he, fun _ h => absurd h List.not_mem_nil⟩

theorem SinceStart.snoc {past since : List Event} {e : Event} (h : SinceStart past since)
    (he : e.restarts = false) : SinceStart (past ++ [e]) (since ++ [e]) := by
  obtain ⟨before, start, rfl, hstart, hsince⟩ := h
  refine ⟨before, start, ?_, hstart, ?_⟩
  · rw [List.append_assoc]
    rfl
  · intro x hx
    rcases List.mem_append.1 hx with hx | hx
    · exact hsince x hx
    · rw [List.mem_singleton.1 hx]
      exact he

/-- An event that is neither a start nor among those since the last start lies before it. -/
theorem SinceStart.behind {past between since : List Event} {d : Event}
    (h : SinceStart (past ++ d :: between) since) (hstart : d.restarts = false)
    (hd : d ∉ since) : SinceStart between since := by
  obtain ⟨before, start, heq, hs, hsince⟩ := h
  -- the last start lies behind `d`, or it is `d`, or `d` is one of the events since it
  rcases List.append_eq_append_iff.1 heq with ⟨a, rfl, ha⟩ | ⟨a, rfl, ha⟩
  · cases a with
    | nil =>
      injection ha with hds _
      rw [hds, hs] at hstart
      exact Bool.noConfusion hstart
    | cons x a =>
      injection ha with _ hbetween
      exact ⟨a, start, hbetween, hs, hsince⟩
  · cases a with
    | nil =>
      injection ha with hsd _
      rw [← hsd, hs] at hstart
      exact Bool.noConfusion hstart
    | cons x a =>
      injection ha with _ hs
      rw [hs] at hd
      exact absurd (List.mem_append.2 (.inr List.mem_cons_self)) hd

/-! ## §3. The stage sums up the history -/

/-- What happened since the last start led to the stage of `w`, and beyond the first stage the
    pending script is one that was validated on the way. -/
structure Led (since : List Event) (w : Workflow) : Prop where
  path : taken since = w.stage.path
  accepted : w.stage ≠ .draft →
    ∃ text, w.pendingScript = some text ∧ ∃ e ∈ since, e.accepts text

/-- The stage sums up the history: without a script nothing has been done, and with one the events
    since the last start led to where the deployment stands. -/
def Summed (past : List Event) (w : Workflow) : Prop :=
  match w.script with
  | none => w.stage = .draft
  | some _ => ∃ since, SinceStart past since ∧ Led since w

theorem summed_none {past : List Event} {w : Workflow} (hs : w.script = none) :
    Summed past w ↔ w.stage = .draft := by
  unfold Summed
  rw [hs]

theorem summed_some {past : List Event} {w : Workflow} {script : List Char}
    (hs : w.script = some script) :
    Summed past w ↔ ∃ since, SinceStart past since ∧ Led since w := by
  unfold Summed
  rw [hs]

/-- An event that did not succeed leads nowhere. -/
theorem Led.refused {since : List Event} {w : Workflow} {e : Event} (h : Led since w)
    (he : e.succeeded = false) : Led (since ++ [e]) w := by
  refine ⟨?_, ?_⟩
  · rw [taken_append, h.path]
    simp [taken, he]
  · intro hstage
    obtain ⟨text, htext, x, hx, haccepts⟩ := h.accepted hstage
    exact ⟨text, htext, x, List.mem_append.2 (.inl hx), haccepts⟩

/-- An event that succeeded leads one step on. -/
theorem Led.advanced {since : List Event} {w w' : Workflow} {e : Event} (h : Led since w)
    (he : e.succeeded = true) (hpath : w'.stage.path = w.stage.path ++ [e.command])
    (hscript : w'.script = w.script)
    (htext : w.stage ≠ .draft ∨ ∃ text, w.pendingScript = some text ∧ e.accepts text) :
    Led (since ++ [e]) w' := by
  have hpending : w'.pendingScript = w.pendingScript := by
    unfold Workflow.pendingScript
    rw [hscript]
  refine ⟨?_, ?_⟩
  · rw [taken_append, h.path, hpath]
    simp [taken, he]
  · intro _
    rw [hpending]
    -- the text was accepted on the way, or just now
    rcases htext with hstage | ⟨text, htext, haccepts⟩
    · obtain ⟨text, htext, x, hx, haccepts⟩ := h.accepted hstage
      exact ⟨text, htext, x, List.mem_append.2 (.inl hx), haccepts⟩
    · exact ⟨text, htext, e, List.mem_append.2 (.inr (List.mem_singleton.2 rfl)), haccepts⟩

theorem Summed.refused {past : List Event} {w : Workflow} {e : Event} (h : Summed past w)
    (hstart : e.restarts = false) (he : e.succeeded = false) : Summed (past ++ [e]) w := by
  cases hs : w.script with
  | none =>
    rw [summed_none hs] at h ⊢
    exact h
  | some script =>
    rw [summed_some hs] at h ⊢
    obtain ⟨since, hsince, hled⟩ := h
    exact ⟨since ++ [e], hsince.snoc hstart, hled.refused he⟩

theorem Summed.advanced {past : List Event} {w w' : Workflow} {e : Event} (h : Summed past w)
    (hstart : e.restarts = false) (he : e.succeeded = true)
    (hpath : w'.stage.path = w.stage.path ++ [e.command]) (hscript : w'.script = w.script)
    (htext : w.stage ≠ .draft ∨ ∃ text, w.pendingScript = some text ∧ e.accepts text) :
    Summed (past ++ [e]) w' := by
  cases hs : w.script with
  | none =>
    -- without a script there is no step to succeed
    rw [summed_none hs] at h
    rcases htext with hstage | ⟨text, htext, _⟩
    · exact absurd h hstage
    · unfold Workflow.pendingScript at htext
      rw [hs] at htext
      exact absurd htext (by simp)
  | some script =>
    rw [summed_some hs] at h
    rw [summed_some (hscript.trans hs)]
    obtain ⟨since, hsince, hled⟩ := h
    exact ⟨since ++ [e], hsince.snoc hstart, hled.advanced he hpath hscript htext⟩

theorem Summed.restarted {past : List Event} {script : Option (List Char)} {e : Event}
    (he : e.restarts = true) : Summed (past ++ [e]) (Workflow.restarted script) := by
  cases script with
  | none => rfl
  | some script =>
    refine ⟨[], SinceStart.restart he, rfl, ?_⟩
    intro hstage
    exact absurd rfl hstage

/-- The log has no part in it. -/
theorem Summed.logged {past : List Event} {w : Workflow} (h : Summed past w) (now : Moment)
    (step : Step) (result : Except Refusal Progress) :
    Summed past (w.logged now step result) := by
  have hscript : (w.logged now step result).script = w.script := rfl
  cases hs : w.script with
  | none =>
    rw [summed_none hs] at h
    rw [summed_none (hscript.trans hs)]
    exact h
  | some script =>
    rw [summed_some hs] at h
    rw [summed_some (hscript.trans hs)]
    obtain ⟨since, hsince, hled⟩ := h
    exact ⟨since, hsince, hled.path, hled.accepted⟩

/-- **Every event keeps the stage in step with the history.** -/
theorem summed_attempt (services : Services σ) (past : List Event) (w : Workflow) (now : Moment)
    (command : Workflow.Command) (s : σ) (h : Summed past w) :
    Summed (past ++ [(Workflow.attempt services now w command s).1])
      (Workflow.attempt services now w command s).2.1 := by
  obtain ⟨result, w', asked, s', hmove, heq⟩ := Workflow.attempt_move services now w command s
  rw [heq]
  apply Summed.logged
  -- a move starts over, stays where it is or goes one step on
  cases hmove with
  | setScript => exact .restarted rfl
  | reset => exact .restarted rfl
  | misplaced hfits =>
    refine h.refused ?_ rfl
    cases command <;> first | rfl | exact Bool.noConfusion hfits
  | rejected | nothingToValidate | unsaved | nothingToDeploy | unseen | failed | unconfirmed =>
    exact h.refused rfl rfl
  | validated hstage hp =>
    refine h.advanced rfl rfl ?_ rfl (.inr ⟨_, hp, rfl, rfl, rfl⟩)
    rw [hstage]
    rfl
  | saved hstage | requested hstage | approved hstage | deployed hstage =>
    refine h.advanced rfl rfl ?_ rfl (.inl ?_)
    · rw [hstage]
      rfl
    · rw [hstage]
      decide

/-! ## §4. Calls of the database -/

/-- The statements of a deployment that asked for them behind a look at the schema, and for no
    others behind them. -/
theorem statements_ran (command : Workflow.Command) (outcome : Outcome) (schema : String)
    (ran : List (List Char)) {behind : List Contact}
    (hbehind : behind.filterMap Contact.statement? = []) :
    (Event.mk command outcome
      (.database (.columns schema) :: ran.map askToRun ++ behind)).statements = ran := by
  unfold Event.statements
  rw [List.cons_append, List.filterMap_cons, List.filterMap_append, filterMap_askToRun, hbehind]
  exact List.append_nil ran

/-- **Only the deployment of an approved script calls the database**, and what it runs are
    statements of this script in order, all of them if it succeeds. -/
theorem calls_attempt (services : Services σ) (w : Workflow) (now : Moment)
    (command : Workflow.Command) (s : σ)
    (h : (Workflow.attempt services now w command s).1.calls ≠ []) :
    let e := (Workflow.attempt services now w command s).1
    e.command = .deploy ∧ w.stage = .approved ∧ ∃ script, w.pendingScript = some script ∧
      e.statements <+: fragments script ∧
        (e.succeeded = true → e.statements = fragments script) := by
  obtain ⟨result, w', asked, s', hmove, heq⟩ := Workflow.attempt_move services now w command s
  rw [heq] at h ⊢
  dsimp only at h ⊢
  -- four moves call the database, and all of them deploy
  cases hmove with
  | unseen hstage hp =>
    refine ⟨rfl, hstage, _, hp, List.nil_prefix, ?_⟩
    intro hsucceeded
    exact Bool.noConfusion hsucceeded
  | failed hstage hp hstatements happlied =>
    refine ⟨rfl, hstage, _, hp, ?_, ?_⟩
    · rw [statements_ran _ _ _ _ rfl, hstatements]
      exact ⟨_, List.append_assoc _ _ _⟩
    · intro hsucceeded
      exact Bool.noConfusion hsucceeded
  | unconfirmed hstage hp hexecuted =>
    rw [List.append_assoc, statements_ran _ _ _ _ rfl]
    refine ⟨rfl, hstage, _, hp, List.prefix_rfl, ?_⟩
    intro hsucceeded
    exact Bool.noConfusion hsucceeded
  | deployed hstage hp hexecuted =>
    rw [List.append_assoc, statements_ran _ _ _ _ rfl]
    exact ⟨rfl, hstage, _, hp, List.prefix_rfl, fun _ => rfl⟩
  | _ => exact absurd rfl h

/-! ## §5. The gate -/

/-- The way to a deployment: since the last start the commands to validate, to back up, to ask for
    an approval and to give it were carried out, once each and in this order, no other was, and
    `text` is what was put to the validator.  An event keeps the questions and whether the command
    was carried out; what the replies were then is said by `Workflow.succeeded_validate_iff` and
    `Workflow.succeeded_backup_iff`. -/
def Gated (past : List Event) (text : List Char) : Prop :=
  ∃ since, SinceStart past since ∧ taken since = [.validate, .backup, .approve, .approve] ∧
    ∃ e ∈ since, e.accepts text

/-- An event whose history is summed up by its stage is gated if it calls the database. -/
theorem gated_attempt (services : Services σ) {past : List Event} {w : Workflow} {now : Moment}
    {command : Workflow.Command} {s : σ} (h : Summed past w)
    (hcalls : (Workflow.attempt services now w command s).1.calls ≠ []) :
    let e := (Workflow.attempt services now w command s).1
    e.command = .deploy ∧ ∃ text, Gated past text ∧ e.statements <+: fragments text ∧
      (e.succeeded = true → e.statements = fragments text) := by
  obtain ⟨hdeploy, hstage, script, hp, hran⟩ := calls_attempt services w now command s hcalls
  refine ⟨hdeploy, script, ?_, hran⟩
  cases hs : w.script with
  | none =>
    unfold Workflow.pendingScript at hp
    rw [hs] at hp
    exact absurd hp (by simp)
  | some _ =>
    rw [summed_some hs] at h
    obtain ⟨since, hsince, hled⟩ := h
    -- what is pending is what was accepted
    obtain ⟨text, htext, haccepts⟩ := hled.accepted (by rw [hstage]; decide)
    rw [hp] at htext
    injection htext with htext
    rw [htext]
    refine ⟨since, hsince, ?_, haccepts⟩
    rw [hled.path, hstage]
    rfl

/-- A deployment that succeeds calls the database. -/
theorem calls_of_deployed (services : Services σ) (w : Workflow) (now : Moment)
    (command : Workflow.Command) (s : σ)
    (hdeploy : (Workflow.attempt services now w command s).1.command = .deploy)
    (h : (Workflow.attempt services now w command s).1.succeeded = true) :
    (Workflow.attempt services now w command s).1.calls ≠ [] := by
  obtain ⟨result, w', asked, s', hmove, heq⟩ := Workflow.attempt_move services now w command s
  rw [heq] at hdeploy h ⊢
  dsimp only at hdeploy h ⊢
  subst hdeploy
  cases hmove with
  | deployed => exact List.cons_ne_nil _ _
  | _ => exact Bool.noConfusion h

/-- **The gate.**  A history has the outcomes of its commands.  Whenever an event of it calls the
    database, it is a deployment with the way to it behind it, and what it runs are the statements
    of the text that was validated.  Between two deployments that succeed lies the whole
    way once more. -/
theorem deployment_gated (services : Services σ) (commands : List (Moment × Workflow.Command))
    (s : σ) :
    let events := Workflow.history services commands .new s
    (events.map Event.command = commands.map Prod.snd ∧
      events.map Event.outcome = Workflow.outcomes services commands .new s) ∧
    (∀ past e rest, events = past ++ e :: rest → e.calls ≠ [] →
      e.command = .deploy ∧ ∃ text, Gated past text ∧ e.statements <+: fragments text ∧
        (e.succeeded = true → e.statements = fragments text)) ∧
    (∀ past d between d' rest, events = past ++ d :: (between ++ d' :: rest) →
      d.command = .deploy → d.succeeded = true → d'.command = .deploy → d'.succeeded = true →
      ∃ text, Gated between text) := by
  intro events
  have hnew : Summed [] Workflow.new := rfl
  refine ⟨⟨Workflow.command_history services commands _ s,
    Workflow.outcome_history services commands _ s⟩, ?_, ?_⟩
  · intro past e rest heq hcalls
    obtain ⟨now, command, w, s', hsummed, rfl⟩ :=
      Workflow.history_invariant (summed_attempt services) hnew heq
    exact gated_attempt services hsummed hcalls
  · intro past d between d' rest heq hd hdone hd' hdone'
    have heq' : events = (past ++ d :: between) ++ d' :: rest := by
      rw [heq, List.append_assoc]
      rfl
    obtain ⟨now, command, w, s', hsummed, rfl⟩ :=
      Workflow.history_invariant (summed_attempt services) hnew heq'
    have hcalls := calls_of_deployed services w now command s' hd' hdone'
    obtain ⟨_, text, ⟨since, hsince, htaken, haccepts⟩, _⟩ :=
      gated_attempt services hsummed hcalls
    -- a deployment that succeeded is not on the way to the next one
    have hnot : d ∉ since := by
      intro hmem
      have hdeploy := mem_taken hmem hdone
      rw [htaken, hd] at hdeploy
      exact absurd hdeploy (by decide)
    have hstart : d.restarts = false := by
      unfold Event.restarts
      rw [hd]
    exact ⟨text, since, hsince.behind hstart hnot, htaken, haccepts⟩

/-- Services that agree to everything. -/
def agreeable : Services Unit where
  validate _ := return .ok ()
  backup := return .ok "backup.sql"
  record _ _ := return .ok ()
  database := ⟨fun
    | .columns _ => return .ok []
    | .execute _ => return .ok ()
    | .counted _ => return .ok (1 : UInt64)
    | .query .. => return .ok []⟩
  schema := "public"
  digest := id

/-- The commands of a script that is deployed, and deployed again after a reset. -/
def deployedTwice : List (Moment × Workflow.Command) :=
  (Workflow.Command.setScript "DELETE FROM t; SELECT 1".toList :: Stage.approved.path ++
    Workflow.Command.deploy :: Workflow.Command.reset :: Stage.approved.path ++
      [Workflow.Command.deploy]).map (default, ·)

/-- What happens then. -/
def twice : List Event := Workflow.history agreeable deployedTwice .new ()

/-- The first deployment. -/
def firstOfTwo : Event := twice.get ⟨5, by decide⟩

/-- The second deployment. -/
def secondOfTwo : Event := twice.get ⟨11, by decide⟩

/-- Both deployments call the database and are gated. -/
theorem gated_twice :
    (firstOfTwo.calls ≠ [] ∧ ∃ text, Gated (twice.take 5) text ∧
      firstOfTwo.statements <+: fragments text ∧ firstOfTwo.statements = fragments text) ∧
    firstOfTwo.succeeded = true ∧ secondOfTwo.succeeded = true ∧
      ∃ text, Gated ((twice.drop 6).take 5) text := by
  obtain ⟨_, hcalls, hdeployed⟩ := deployment_gated agreeable deployedTwice ()
  have hfirst : firstOfTwo.calls ≠ [] := by decide +kernel
  have hdone : firstOfTwo.succeeded = true := by decide +kernel
  have hdone' : secondOfTwo.succeeded = true := by decide +kernel
  have hsplit : twice = twice.take 5 ++ firstOfTwo :: twice.drop 6 := rfl
  have hsplit' : twice
      = twice.take 5 ++ firstOfTwo :: ((twice.drop 6).take 5 ++ [secondOfTwo]) := rfl
  obtain ⟨_, text, hgated, hprefix, hall⟩ := hcalls _ _ _ hsplit hfirst
  exact ⟨⟨hfirst, text, hgated, hprefix, hall hdone⟩, hdone, hdone',
    hdeployed _ _ _ _ [] hsplit' rfl hdone rfl hdone'⟩

end ScriptGate.Deployment
