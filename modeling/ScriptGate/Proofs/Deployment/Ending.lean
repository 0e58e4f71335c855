/-
  ScriptGate.Proofs.Deployment.Ending — how the deployment of an approved script ends.

  A deployment looks at the schema, runs the statements of its script and looks at the schema once
  more.  Each of the three can fail, and the script can fail at any of its statements; what the
  operator is told depends on how much of the script is committed by then.  The database answers
  from a state of its own, so the second look may come to something else than the first.
  Main statements:
    - `runAll_asks`    — a run asks for its statements up to the first that fails;
    - `attempt_ends`   — a deployment ends in one of four ways, by what it was answered;
    - `deploy_told`    — what a deployment calls the database for, what it is told to have come to
                         and what it reports.
-/
import ScriptGate.Proofs.Deployment.Reached

namespace ScriptGate.Deployment

open ScriptGate.Schema ScriptGate.Script ScriptGate.Statement

/-! ## §1. What a run asks for -/

/-- The calls of a run: those for its statements, up to the first that fails. -/
def callsOfRun (db : Database σ) (statements : List (List Char)) (s : σ) : List Database.Call :=
  (statements.take (firstFailure (replies db statements s) + 1)).map callOf

/-- **A run asks for its statements up to the first that fails**, and watching it changes
    nothing else. -/
theorem runAll_asks (services : Services σ) (statements : List (List Char)) (done : Impact)
    (s : σ) (log : List Contact) :
    runAll services.watched.database done statements (s, log) =
      ((runAll services.database done statements s).1,
        ((runAll services.database done statements s).2,
          log ++ (callsOfRun services.database statements s).map Contact.database)) := by
  have hnoted : ∀ call s log, services.watched.database.ask call (s, log)
      = ((services.database.ask call s).1,
        ((services.database.ask call s).2, log ++ [.database call])) := fun _ _ _ => rfl
  rw [runAll_noted hnoted, List.foldl_append_eq_append, ← List.flatMap_def,
    ← List.map_eq_flatMap]
  rfl

/-! ## §2. How a deployment ends -/

/-- How the deployment of a script from the state `s` on ends, and which calls of the database it
    has made by then. -/
inductive Ends (services : Services σ) (now : Moment) (script : List Char) (s : σ) :
    Except Refusal Report → List Database.Call → Prop where
  /-- the schema cannot be looked at -/
  | unseen {fault s₁} : services.database.columns services.schema s = (.error fault, s₁) →
      Ends services now script s (.error (Workflow.beforeRefusal fault))
        [.columns services.schema]
  /-- a statement fails -/
  | failed {rows s₁ failure s₂} :
      services.database.columns services.schema s = (.ok rows, s₁) →
      run services.database script s₁ = (.error failure, s₂) →
      Ends services now script s (.error (Workflow.runRefusal failure))
        (.columns services.schema :: callsOfRun services.database (fragments script) s₁)
  /-- all is committed, and the schema cannot be looked at again -/
  | unconfirmed {rows s₁ impact s₂ fault s₃} :
      services.database.columns services.schema s = (.ok rows, s₁) →
      run services.database script s₁ = (.ok impact, s₂) →
      services.database.columns services.schema s₂ = (.error fault, s₃) →
      Ends services now script s (.error (Workflow.afterRefusal impact fault))
        (.columns services.schema :: callsOfRun services.database (fragments script) s₁ ++
          [.columns services.schema])
  | reported {rows s₁ impact s₂ rows' s₃} :
      services.database.columns services.schema s = (.ok rows, s₁) →
      run services.database script s₁ = (.ok impact, s₂) →
      services.database.columns services.schema s₂ = (.ok rows', s₃) →
      Ends services now script s
        (.ok (.build services.digest now (.ofRows services.schema now.stamp rows)
          (.ofRows services.schema now.stamp rows') impact))
        (.columns services.schema :: callsOfRun services.database (fragments script) s₁ ++
          [.columns services.schema])

/-- A script is run between two snapshots to one of the ends. -/
theorem between_ends (services : Services σ) (now : Moment) (script : List Char) (s : σ)
    (log : List Contact) :
    ∃ result calls s', Ends services now script s result calls ∧
      Workflow.runBetweenSnapshots services.watched now script (s, log)
        = (result, (s', log ++ calls.map Contact.database)) := by
  -- the snapshot on either side is one look at the columns, which is logged
  have hlook : ∀ s log, capture services.watched.database services.watched.schema now (s, log)
      = ((services.database.columns services.schema s).1.map
          (.ofRows services.schema now.stamp),
        ((services.database.columns services.schema s).2,
          log ++ [.database (.columns services.schema)])) := fun _ _ => rfl
  rw [Workflow.runBetweenSnapshots_eq, hlook]
  rcases hfirst : services.database.columns services.schema s with ⟨fault | rows, s₁⟩
  · exact ⟨_, _, s₁, .unseen hfirst, rfl⟩
  · have hrun : run services.watched.database script
        (s₁, log ++ [.database (.columns services.schema)]) = _ :=
      runAll_asks services (fragments script) .none s₁ _
    dsimp only [Except.map]
    rw [hrun]
    rcases hran : run services.database script s₁ with ⟨failure | impact, s₂⟩
    · refine ⟨_, _, s₂, .failed hfirst hran, ?_⟩
      rw [show runAll services.database .none (fragments script) s₁ = _ from hran,
        List.append_assoc]
      rfl
    · rw [show runAll services.database .none (fragments script) s₁ = _ from hran]
      dsimp only
      rw [hlook]
      rcases hsecond : services.database.columns services.schema s₂ with ⟨fault | rows', s₃⟩
      · refine ⟨_, _, s₃, .unconfirmed hfirst hran hsecond, ?_⟩
        rw [List.append_assoc, List.append_assoc, List.map_append]
        rfl
      · refine ⟨_, _, s₃, .reported hfirst hran hsecond, ?_⟩
        rw [List.append_assoc, List.append_assoc, List.map_append]
        rfl

namespace Workflow

/-- The deployment behind a script that was run to this end. -/
def behind (w : Workflow) : Except Refusal Report → Workflow
  | .error _ => w
  | .ok report => { w with stage := .completed, report := some report }

/-- **The deployment of an approved script ends in one of the four ways**; then it is recorded. -/
theorem attempt_ends (services : Services σ) (now : Moment) {w : Workflow} {script : List Char}
    (hstage : w.stage = .approved) (hp : w.pendingScript = some script) (s : σ) :
    ∃ result calls s', Ends services now script s result calls ∧
      attempt services now w .deploy s =
        (⟨.deploy, outcomeOf (w.behind result).stage .deploy (result.map deployProgress),
          calls.map Contact.database ++ [.record (recordOf .deploy (result.map deployProgress))]⟩,
        logged now (w.behind result) .deploy (result.map deployProgress), s') := by
  obtain ⟨result, calls, s₁, hends, hbetween⟩ := between_ends services now script s []
  -- what is kept of the result and where the deployment goes is read off the result
  have htry : tryDeploy services.watched now w (s, [])
      = ((result.map deployProgress, w.behind result), (s₁, calls.map Contact.database)) := by
    rw [tryDeploy_def]
    rw [if_neg (not_not_intro hstage), hp]
    simp only [bind, StateT.bind, hbetween]
    cases result <;> rfl
  have hperform : perform services.watched now w .deploy (s, [])
      = finish services.watched now (w.behind result) .deploy (result.map deployProgress)
          (s₁, calls.map Contact.database) := by
    show deploy services.watched now w (s, []) = _
    rw [deploy_def]
    simp only [bind, StateT.bind, htry]
  refine ⟨result, calls, (services.record now (recordOf .deploy (result.map deployProgress)) s₁).2,
    hends, ?_⟩
  unfold attempt
  rw [hperform]
  rfl

end Workflow

/-! ## §3. How far a script came -/

/-- What is applied are the statements in front of the first that fails. -/
theorem executed_of_gains {db : Database σ} {statements : List (List Char)} {s : σ} {k : Nat}
    {applied : Impact} (h : Gains .none ((replies db statements s).take k) applied) :
    applied.executed = statements.take k := by
  rw [h.executed, List.map_take, statement_replies]
  rfl

/-- A run that ends in a failure ends at its first statement that fails. -/
theorem run_failed {db : Database σ} {script : List Char} {s s' : σ} {failure : Failure}
    (h : run db script s = (.error failure, s')) :
    let given := replies db (fragments script) s
    let k := firstFailure given
    Gains .none (given.take k) failure.applied ∧
      ∃ fault, given[k]? = some ⟨failure.statement, .error fault⟩ ∧
        failure.cause = fault.detail := by
  intro given k
  obtain ⟨applied, hgains, hends⟩ := runAll_gains db (fragments script) .none s
  have hran : (runAll db .none (fragments script) s).1 = .error failure := congrArg Prod.fst h
  rw [hran] at hends
  rcases hends with ⟨_, hok⟩ | ⟨statement, fault, hk, herror⟩
  · cases hok
  · obtain rfl := Except.error.inj herror
    exact ⟨hgains, fault, hk, rfl⟩

/-- The failure names that statement and counts those in front of it; something is committed unless
    there are none. -/
theorem failure_place {db : Database σ} {script : List Char} {s s' : σ} {failure : Failure}
    (h : run db script s = (.error failure, s')) :
    let statements := fragments script
    let k := firstFailure (replies db statements s)
    failure.applied.executed = statements.take k ∧ failure.applied.executed.length = k ∧
      statements[k]? = some failure.statement ∧ failure.isPartial = decide (k ≠ 0) := by
  intro statements k
  obtain ⟨hgains, fault, hk, _⟩ := run_failed h
  have hexecuted : failure.applied.executed = statements.take k := executed_of_gains hgains
  have hstatement : statements[k]? = some failure.statement := by
    have hnamed := congrArg (Option.map Reply.statement) hk
    rwa [← List.getElem?_map, statement_replies] at hnamed
  have hlength : failure.applied.executed.length = k := by
    have hlt := (List.getElem?_eq_some_iff.1 hstatement).1
    rw [hexecuted, List.length_take]
    omega
  refine ⟨hexecuted, hlength, hstatement, ?_⟩
  unfold Failure.isPartial
  rw [← hlength]
  cases failure.applied.executed <;> rfl

/-- A run that does not has no statement that fails. -/
theorem run_ended {db : Database σ} {script : List Char} {s s' : σ} {impact : Impact}
    (h : run db script s = (.ok impact, s')) :
    let given := replies db (fragments script) s
    let k := firstFailure given
    k = (fragments script).length ∧ Gains .none (given.take k) impact := by
  intro given k
  obtain ⟨applied, hgains, hends⟩ := runAll_gains db (fragments script) .none s
  have hran : (runAll db .none (fragments script) s).1 = .ok impact := congrArg Prod.fst h
  rw [hran] at hends
  rcases hends with ⟨hk, hok⟩ | ⟨_, _, _, herror⟩
  · obtain rfl := Except.ok.inj hok
    exact ⟨hk, hgains⟩
  · cases herror

/-- Then all of them are asked for. -/
theorem callsOfRun_ended {db : Database σ} {statements : List (List Char)} {s : σ}
    (h : firstFailure (replies db statements s) = statements.length) :
    callsOfRun db statements s = statements.map callOf := by
  unfold callsOfRun
  rw [h, List.take_of_length_le (Nat.le_succ _)]

/-- A deployment that is not completed has no report, if it is one that visits lead to. -/
theorem report_reached (services : Services σ) (visits : List (Visit σ))
    (h : (reached services visits).stage ≠ .completed) :
    (reached services visits).report = none := by
  induction visits using List.reverseRecOn with
  | nil => rfl
  | append_singleton earlier v ih =>
    obtain ⟨now, command, s⟩ := v
    rw [reached_snoc] at h ⊢
    obtain ⟨result, moved, asked, hmove, heq⟩ :=
      Workflow.perform_move services now (reached services earlier) command s
    dsimp only at h ⊢
    rw [heq] at h ⊢
    -- only a deployment that is completed by this visit comes to a report
    cases hmove with
    | setScript | reset => rfl
    | misplaced | nothingToValidate | rejected | unsaved | nothingToDeploy | unseen | failed
    | unconfirmed => exact ih h
    | validated hstage | saved hstage | requested hstage | approved hstage =>
      refine ih ?_
      rw [hstage]
      decide
    | deployed => exact absurd rfl h

/-! ## §4. What is told -/

/-- The step was refused for a reason of this kind, the operator was told the message, and nothing
    has become of the deployment but a line in its log. -/
def Refuses (w : Workflow) (outcome : Outcome) (w' : Workflow) (kind : Refusal.Kind)
    (message : String) : Prop :=
  outcome = ⟨.deploy, false, .failed, .approved, message, some kind⟩ ∧
    w'.stage = .approved ∧ w'.report = w.report ∧ w'.script = w.script

/-- A refusal refuses. -/
theorem refuses_error {w : Workflow} (hstage : w.stage = .approved) (now : Moment)
    (refusal : Refusal) :
    Refuses w (Workflow.outcomeOf w.stage .deploy (.error refusal))
      (w.logged now .deploy (.error refusal)) refusal.kind refusal.message := by
  refine ⟨?_, hstage, rfl, rfl⟩
  rw [hstage]
  rfl

/-- The calls of an event that asked for them and was recorded. -/
theorem calls_recorded (command : Workflow.Command) (outcome : Outcome)
    (calls : List Database.Call) (kept : Audit.Record) :
    (Event.mk command outcome (calls.map Contact.database ++ [.record kept])).calls = calls := by
  unfold Event.calls
  rw [List.filterMap_append, List.filterMap_map]
  show calls.filterMap some ++ [] = calls
  rw [List.filterMap_some, List.append_nil]

/-- **What the deployment of an approved script comes to.**  `k` is the place of the first statement
    that fails, or behind the last one.  The schema is looked at once in front of the statements,
    and once more behind them if none failed; nothing else is asked but to record the step.  A
    failure with nothing committed is one of a collaborator; a failure behind `k` committed
    statements tells of a partial deployment, of the statement, of `k` and of the rows of those `k`;
    a second look that fails tells of the rows of the whole script.  In all these cases the
    deployment stays where it is.  Otherwise it is completed, and its report is on the two looks and
    on this very run. -/
theorem deploy_told (services : Services σ) (now : Moment) {w : Workflow} {script : List Char}
    (hstage : w.stage = .approved) (hp : w.pendingScript = some script) (s : σ) :
    let db := services.database
    let look := Database.Call.columns services.schema
    let statements := fragments script
    let first := db.columns services.schema s
    let given := replies db statements first.2
    let k := firstFailure given
    let ran := run db script first.2
    let second := db.columns services.schema ran.2
    let e := (Workflow.attempt services now w .deploy s).1
    let w' := (Workflow.attempt services now w .deploy s).2.1
    (w.perform services now .deploy s).1 = (e.outcome, w') ∧
    (∃ kept, e.contacts = e.calls.map Contact.database ++ [.record kept]) ∧
    (∀ visits, reached services visits = w → w.report = none) ∧
    match first.1 with
    | .error fault =>
      e.calls = [look] ∧ Refuses w e.outcome w' .collaborator
        ("Deployment failed: could not capture the pre-deployment snapshot: " ++ fault.detail)
    | .ok rows => ∃ applied : Impact, applied.executed = statements.take k ∧
      Gains .none (given.take k) applied ∧
      if k < statements.length then
        e.calls = look :: (statements.take (k + 1)).map callOf ∧
        ∃ statement fault, statements[k]? = some statement ∧
          given[k]? = some ⟨statement, .error fault⟩ ∧
          ran.1 = .error ⟨applied, statement, fault.detail⟩ ∧
          if k = 0 then
            Refuses w e.outcome w' .collaborator ("Deployment failed: " ++ fault.detail)
          else
            Refuses w e.outcome w' .partialExecution
              ("Deployment partially applied: statement \x60" ++ String.ofList statement ++
                "\x60 failed: " ++ fault.detail ++ ". " ++ toString k ++
                " earlier statement(s) remain committed (" ++ applied.line ++ ").")
      else
        e.calls = look :: statements.map callOf ++ [look] ∧ ran.1 = .ok applied ∧
        match second.1 with
        | .error fault =>
          Refuses w e.outcome w' .collaborator
            ("Script fully applied (" ++ applied.line ++
              ") but the post-deployment snapshot failed: " ++ fault.detail ++
              ". Inspect the schema before retrying.")
        | .ok rows' =>
          let before := Snapshot.ofRows services.schema now.stamp rows
          let after := Snapshot.ofRows services.schema now.stamp rows'
          e.outcome.refused = none ∧ w'.stage = .completed ∧ w'.script = w.script ∧
          ∃ report, w'.report = some report ∧ report.impact = applied ∧
            report.changes = diff before after ∧
            report.summary = .ofChanges (diff before after) ∧
            report.checksumBefore = before.checksum services.digest ∧
            report.checksumAfter = after.checksum services.digest := by
  intro db look statements first given k ran second e w'
  obtain ⟨result, calls, s', hends, heq⟩ := Workflow.attempt_ends services now hstage hp s
  have he : e = _ := congrArg Prod.fst heq
  have hw' : w' = _ := congrArg (fun a => a.2.1) heq
  have hcalls : e.calls = calls := by
    rw [he]
    exact calls_recorded _ _ _ _
  have hcontacts : ∃ kept, e.contacts = e.calls.map Contact.database ++ [.record kept] := by
    rw [hcalls, he]
    exact ⟨_, rfl⟩
  have hreport : ∀ visits, reached services visits = w → w.report = none := by
    rintro visits rfl
    refine report_reached services visits ?_
    rw [hstage]
    decide
  refine ⟨congrArg Prod.fst (Workflow.perform_attempt services now w .deploy s), hcontacts, hreport,
    ?_⟩
  rw [hcalls, he, hw']
  -- a deployment ends in one of four ways, and each is an alternative of the statement
  cases hends with
  | @unseen fault s₁ hfirst =>
    rw [show first.1 = .error fault from congrArg Prod.fst hfirst]
    exact ⟨rfl, refuses_error hstage now _⟩
  | @failed rows s₁ failure s₂ hfirst hran =>
    rw [show first.1 = .ok rows from congrArg Prod.fst hfirst]
    obtain rfl : first.2 = s₁ := congrArg Prod.snd hfirst
    obtain ⟨hgains, fault, hk, hcause⟩ := run_failed hran
    obtain ⟨hexecuted, hlength, hstatement, hpartial⟩ := failure_place hran
    obtain ⟨applied, statement, cause⟩ := failure
    obtain rfl : cause = fault.detail := hcause
    have hlt : k < statements.length := (List.getElem?_eq_some_iff.1 hstatement).1
    refine ⟨applied, hexecuted, hgains, ?_⟩
    rw [if_pos hlt]
    refine ⟨rfl, statement, fault, hstatement, hk, congrArg Prod.fst hran, ?_⟩
    -- what is refused depends on whether anything was applied, that is on whether `k` is zero
    unfold Workflow.runRefusal
    by_cases hzero : k = 0
    · rw [if_pos hzero, hpartial, if_neg (by simpa using hzero)]
      exact refuses_error hstage now _
    · rw [if_neg hzero, hpartial, if_pos (by simpa using hzero),
        ← show applied.executed.length = k from hlength]
      exact refuses_error hstage now (.partialExecution ⟨applied, statement, fault.detail⟩)
  | @unconfirmed rows s₁ impact s₂ fault s₃ hfirst hran hsecond =>
    rw [show first.1 = .ok rows from congrArg Prod.fst hfirst]
    obtain rfl : first.2 = s₁ := congrArg Prod.snd hfirst
    obtain rfl : ran.2 = s₂ := congrArg Prod.snd hran
    obtain ⟨hk, hgains⟩ := run_ended hran
    refine ⟨impact, executed_of_gains hgains, hgains, ?_⟩
    rw [if_neg (Nat.not_lt.2 (Nat.le_of_eq hk.symm)), callsOfRun_ended hk,
      show second.1 = .error fault from congrArg Prod.fst hsecond]
    exact ⟨rfl, congrArg Prod.fst hran, refuses_error hstage now _⟩
  | @reported rows s₁ impact s₂ rows' s₃ hfirst hran hsecond =>
    rw [show first.1 = .ok rows from congrArg Prod.fst hfirst]
    obtain rfl : first.2 = s₁ := congrArg Prod.snd hfirst
    obtain rfl : ran.2 = s₂ := congrArg Prod.snd hran
    obtain ⟨hk, hgains⟩ := run_ended hran
    refine ⟨impact, executed_of_gains hgains, hgains, ?_⟩
    rw [if_neg (Nat.not_lt.2 (Nat.le_of_eq hk.symm)), callsOfRun_ended hk,
      show second.1 = .ok rows' from congrArg Prod.fst hsecond]
    exact ⟨rfl, congrArg Prod.fst hran, rfl, rfl, rfl, _, rfl, rfl, rfl, rfl, rfl, rfl⟩

/-- Services over a database that counts its calls and drops no table.  It answers one look at the
    schema. -/
def fragile : Services Nat where
  validate _ := return .ok ()
  backup := return .ok "backup.sql"
  record _ _ := return .ok ()
  database := ⟨fun
    | .columns _ => fun n => (if n = 0 then .ok [] else .error ⟨.database, "gone"⟩, n + 1)
    | .execute _ => fun n => (.error ⟨.database, "denied"⟩, n + 1)
    | .counted _ => fun n => (.ok (3 : UInt64), n + 1)
    | .query .. => fun n => (.ok [], n + 1)⟩
  schema := "public"
  digest := id

/-- An approved deployment of a script. -/
def approvedWith (script : String) : Workflow := ⟨some script.toList, .approved, [], none⟩

/-- A table that is not dropped leaves the rows in front of it deleted; and rows that are deleted
    stay so when the schema cannot be looked at again. -/
theorem fragile_told :
    let half := approvedWith "DELETE FROM t; DROP TABLE t"
    let all := approvedWith "DELETE FROM t"
    (half.stage = .approved ∧ half.pendingScript.isSome = true ∧
      (half.perform fragile default .deploy 0).1.1 = ⟨.deploy, false, .failed, .approved,
        "Deployment partially applied: statement \x60DROP TABLE t\x60 failed: denied. 1 earlier statement(s) remain committed (INSERT: 0, UPDATE: 0, DELETE: 3).",
        some .partialExecution⟩) ∧
    (all.stage = .approved ∧ all.pendingScript.isSome = true ∧
      (all.perform fragile default .deploy 0).1.1 = ⟨.deploy, false, .failed, .approved,
        "Script fully applied (INSERT: 0, UPDATE: 0, DELETE: 3) but the post-deployment snapshot failed: gone. Inspect the schema before retrying.",
        some .collaborator⟩) := by
  intro half all
  have hhalf : half.pendingScript = some "DELETE FROM t; DROP TABLE t".toList := by decide +kernel
  have hall : all.pendingScript = some "DELETE FROM t".toList := by decide +kernel
  refine ⟨⟨rfl, by rw [hhalf]; rfl, ?_⟩, rfl, by rw [hall]; rfl, ?_⟩
  · obtain ⟨hperform, -, -, applied, -, -, hends⟩ := deploy_told fragile default rfl hhalf 0
    rw [if_pos (by decide +kernel)] at hends
    obtain ⟨-, statement, fault, -, -, hran, hends⟩ := hends
    rw [if_neg (by decide +kernel)] at hends
    have hfound : (run fragile.database "DELETE FROM t; DROP TABLE t".toList 1).1
        = .error ⟨⟨0, 0, 3, ["DELETE FROM t".toList]⟩, "DROP TABLE t".toList, "denied"⟩ := by rfl
    obtain ⟨rfl, rfl, hdetail⟩ := Failure.mk.inj (Except.error.inj (hfound.symm.trans hran))
    rw [hperform, hends.1, ← hdetail]
    decide +kernel
  · obtain ⟨hperform, -, -, applied, -, -, hends⟩ := deploy_told fragile default rfl hall 0
    rw [if_neg (by decide +kernel)] at hends
    obtain ⟨-, hran, hends⟩ := hends
    have hfound : (run fragile.database "DELETE FROM t".toList 1).1
        = .ok ⟨0, 0, 3, ["DELETE FROM t".toList]⟩ := by rfl
    obtain rfl := Except.ok.inj (hfound.symm.trans hran)
    rw [hperform, hends.1]
    decide +kernel

end ScriptGate.Deployment
