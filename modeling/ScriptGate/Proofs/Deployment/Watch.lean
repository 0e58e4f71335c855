/-
  ScriptGate.Proofs.Deployment.Watch — what a step of a deployment asks of others.

  The services of a deployment are watched: every question is noted before it is answered, and the
  answers are those of the services themselves.  What a step can do is said once, case by case, by
  `Move`: how it ends, where it leaves the deployment and what it asks on the way.
  Main statements:
    - `runAll_watched`  — a run asks for the statements in order, up to the first that fails;
    - `perform_watched` — every step is one of the moves, with its record behind it.
-/
import ScriptGate.Deployment.Workflow

namespace ScriptGate.Deployment

open ScriptGate.Audit ScriptGate.Schema ScriptGate.Script ScriptGate.Text

/-! ## §1. Watching -/

/-- A question to others. -/
inductive Contact where
  /-- is this script fit to be deployed? -/
  | validate (script : List Char)
  /-- make a backup -/
  | backup
  /-- keep this in the audit trail -/
  | record (kept : Record)
  /-- a call of the database -/
  | database (call : Database.Call)
deriving DecidableEq, Repr

/-- The answer of `m`, with a note of the question. -/
def noting (contact : Contact) (m : StateM σ α) : StateM (σ × List Contact) α := fun s =>
  ((m s.1).1, ((m s.1).2, s.2 ++ [contact]))

/-- The services, watched. -/
def Services.watched (services : Services σ) : Services (σ × List Contact) where
  validate script := noting (.validate script) (services.validate script)
  backup := noting .backup services.backup
  record now kept := noting (.record kept) (services.record now kept)
  database := ⟨fun call => noting (.database call) (services.database.ask call)⟩
  schema := services.schema
  digest := services.digest

/-! ## §2. Running statements -/

/-- The call that runs a statement. -/
def callOf (statement : List Char) : Database.Call :=
  if (kindOf statement).isDml then .counted statement else .execute statement

/-- The question that runs a statement. -/
def askToRun (statement : List Char) : Contact := .database (callOf statement)

theorem runStatement_watched (services : Services σ) (statement : List Char)
    (s : σ) (log : List Contact) :
    ∃ s', (runStatement services.watched.database statement (s, log)).2
      = (s', log ++ [askToRun statement]) := by
  unfold runStatement askToRun callOf
  by_cases h : (kindOf statement).isDml = true
  · rw [if_pos h, if_pos h]
    exact ⟨_, rfl⟩
  · rw [if_neg h, if_neg h]
    exact ⟨_, rfl⟩

theorem executed_record (done : Impact) (kind : Statement.Kind) (rows : UInt64)
    (statement : List Char) :
    (done.record kind rows statement).executed = done.executed ++ [statement] := by
  cases kind <;> rfl

/-- How a run of `statements` can end, what it asked being `asked`. -/
def RunEnds (done : Impact) (statements : List (List Char)) (asked : List Contact) :
    Except Failure Impact → Prop
  | .ok impact =>
    impact.executed = done.executed ++ statements ∧ asked = statements.map askToRun
  | .error failure =>
    ∃ before behind, statements = before ++ failure.statement :: behind ∧
      failure.applied.executed = done.executed ++ before ∧
      asked = (before ++ [failure.statement]).map askToRun

/-- A run ends behind its first statement as it ends with it. -/
theorem RunEnds.cons {done : Impact} {rows : UInt64} {statement : List Char}
    {rest : List (List Char)} {asked : List Contact} :
    ∀ {result : Except Failure Impact},
      RunEnds (done.record (kindOf statement) rows statement) rest asked result →
        RunEnds done (statement :: rest) (askToRun statement :: asked) result
  | .ok impact => by
    rintro ⟨hexecuted, hasked⟩
    refine ⟨?_, ?_⟩
    · rw [hexecuted, executed_record, List.append_assoc]
      rfl
    · rw [hasked]
      rfl
  | .error failure => by
    rintro ⟨before, behind, hrest, happlied, hasked⟩
    refine ⟨statement :: before, behind, ?_, ?_, ?_⟩
    · rw [hrest]
      rfl
    · rw [happlied, executed_record, List.append_assoc]
      rfl
    · rw [hasked]
      rfl

/-- **A run asks for the statements in order, up to the first that fails.** -/
theorem runAll_watched (services : Services σ) (statements : List (List Char)) :
    ∀ (done : Impact) (s : σ) (log : List Contact),
      ∃ s' asked,
        (runAll services.watched.database done statements (s, log)).2 = (s', log ++ asked) ∧
        RunEnds done statements asked
          (runAll services.watched.database done statements (s, log)).1 := by
  induction statements with
  | nil =>
    intro done s log
    refine ⟨s, [], ?_, ?_, rfl⟩
    · rw [List.append_nil]
      rfl
    · rw [List.append_nil]
  | cons statement rest ih =>
    intro done s log
    obtain ⟨s₁, hs₁⟩ := runStatement_watched services statement s log
    rw [runAll_cons]
    rcases hr : runStatement services.watched.database statement (s, log) with ⟨answer, state⟩
    rw [hr] at hs₁
    dsimp only at hs₁
    subst hs₁
    -- the statement was asked for, whether it failed or not
    cases answer with
    | error fault =>
      refine ⟨s₁, [askToRun statement], rfl, [], rest, rfl, ?_, rfl⟩
      rw [List.append_nil]
    | ok rows =>
      obtain ⟨s₂, asked, hlog, hends⟩ :=
        ih (done.record (kindOf statement) rows statement) s₁ (log ++ [askToRun statement])
      refine ⟨s₂, askToRun statement :: asked, ?_, hends.cons⟩
      rw [hlog, List.append_assoc]
      rfl

namespace Workflow

/-! ## §3. Moves -/

/-- Is this the stage for a command? -/
def Command.fits : Command → Stage → Bool
  | .setScript _, _ | .reset, _ => true
  | .validate, .draft => true
  | .backup, .validated => true
  | .approve, .backupCreated | .approve, .approvalPending => true
  | .deploy, .approved => true
  | _, _ => false

/-- The step that a command takes at a stage. -/
def Command.step : Command → Stage → Step
  | .setScript _, _ => .start
  | .validate, _ => .validate
  | .backup, _ => .backup
  | .approve, .backupCreated => .requestApproval
  | .approve, _ => .approve
  | .deploy, _ => .deploy
  | .reset, _ => .reset

/-- What a command can do to a deployment: how it ends, where it leaves the deployment before the
    step is logged, and what it asks before the step is recorded. -/
inductive Move (schema : String) (digest : Snapshot.Digest) (now : Moment) (w : Workflow) :
    Command → Except Refusal Progress → Workflow → List Contact → Prop where
  | setScript {script p} : Move schema digest now w (.setScript script) (.ok p)
      (restarted (some script)) []
  | reset {p} : Move schema digest now w .reset (.ok p) (restarted w.script) []
  /-- this is not the stage for it -/
  | misplaced {command reason} : command.fits w.stage = false →
      Move schema digest now w command (.error (.precondition reason)) w []
  | nothingToValidate {reason} : w.stage = .draft → w.pendingScript = none →
      Move schema digest now w .validate (.error (.input reason)) w []
  | rejected {script reason} : w.stage = .draft → w.pendingScript = some script →
      Move schema digest now w .validate (.error (.validation reason)) w [.validate script]
  | validated {script p} : w.stage = .draft → w.pendingScript = some script →
      Move schema digest now w .validate (.ok p) { w with stage := .validated }
        [.validate script]
  | unsaved {reason} : w.stage = .validated →
      Move schema digest now w .backup (.error (.collaborator reason)) w [.backup]
  | saved {p} : w.stage = .validated →
      Move schema digest now w .backup (.ok p) { w with stage := .backupCreated } [.backup]
  | requested {p} : w.stage = .backupCreated →
      Move schema digest now w .approve (.ok p) { w with stage := .approvalPending } []
  | approved {p} : w.stage = .approvalPending →
      Move schema digest now w .approve (.ok p) { w with stage := .approved } []
  | nothingToDeploy {reason} : w.stage = .approved → w.pendingScript = none →
      Move schema digest now w .deploy (.error (.input reason)) w []
  /-- there is no snapshot to start from -/
  | unseen {script fault} : w.stage = .approved → w.pendingScript = some script →
      Move schema digest now w .deploy (.error (beforeRefusal fault)) w
        [.database (.columns schema)]
  /-- a statement failed -/
  | failed {script failure before behind} : w.stage = .approved →
      w.pendingScript = some script →
      fragments script = before ++ failure.statement :: behind →
      failure.applied.executed = before →
      Move schema digest now w .deploy (.error (runRefusal failure)) w
        (.database (.columns schema) :: (before ++ [failure.statement]).map askToRun)
  /-- all is applied and there is no snapshot to compare with -/
  | unconfirmed {script impact fault} : w.stage = .approved → w.pendingScript = some script →
      impact.executed = fragments script →
      Move schema digest now w .deploy (.error (afterRefusal impact fault)) w
        (.database (.columns schema) :: (fragments script).map askToRun ++
          [.database (.columns schema)])
  | deployed {script impact before after} : w.stage = .approved →
      w.pendingScript = some script → impact.executed = fragments script →
      Move schema digest now w .deploy
        (.ok (deployProgress (.build digest now before after impact)))
        { w with stage := .completed, report := some (.build digest now before after impact) }
        (.database (.columns schema) :: (fragments script).map askToRun ++
          [.database (.columns schema)])

/-! ## §4. Every step is a move -/

variable {services : Services σ} {now : Moment} {w : Workflow}

/-- `m` moves the deployment by `command`. -/
def Moves (services : Services σ) (now : Moment) (w : Workflow) (command : Command)
    (m : StateM (σ × List Contact) (Except Refusal Progress × Workflow)) : Prop :=
  ∀ s log, ∃ result w' s' asked, m (s, log) = ((result, w'), (s', log ++ asked)) ∧
    Move services.schema services.digest now w command result w' asked

/-- A move that asks nothing. -/
theorem Moves.pure {command : Command} {result : Except Refusal Progress} {w' : Workflow}
    (h : Move services.schema services.digest now w command result w' []) :
    Moves services now w command (pure (result, w')) := by
  intro s log
  refine ⟨result, w', s, [], ?_, h⟩
  rw [List.append_nil]
  rfl

/-- A move that asks one question and goes by the answer. -/
theorem Moves.ask {command : Command} {contact : Contact} {m : StateM σ α}
    {f : α → StateM (σ × List Contact) (Except Refusal Progress × Workflow)}
    (h : ∀ answer, ∃ result w', f answer = Pure.pure (result, w') ∧
      Move services.schema services.digest now w command result w' [contact]) :
    Moves services now w command (noting contact m >>= f) := by
  intro s log
  obtain ⟨result, w', hf, hmove⟩ := h (m s).1
  refine ⟨result, w', (m s).2, [contact], ?_, hmove⟩
  show f (m s).1 ((m s).2, log ++ [contact]) = _
  rw [hf]
  rfl

theorem tryValidate_watched (services : Services σ) (now : Moment) (w : Workflow) :
    Moves services now w .validate (tryValidate services.watched w) := by
  unfold tryValidate
  by_cases hstage : w.stage = .draft
  · rw [if_neg (not_not_intro hstage)]
    cases hp : w.pendingScript with
    | none => exact .pure (.nothingToValidate hstage hp)
    | some script =>
      apply Moves.ask
      intro answer
      cases answer with
      | error fault => exact ⟨_, _, rfl, .rejected hstage hp⟩
      | ok _ => exact ⟨_, _, rfl, .validated hstage hp⟩
  · rw [if_pos hstage]
    refine .pure (.misplaced ?_)
    revert hstage
    cases w.stage <;> simp [Command.fits]

theorem tryBackup_watched (services : Services σ) (now : Moment) (w : Workflow) :
    Moves services now w .backup (tryBackup services.watched w) := by
  unfold tryBackup
  by_cases hstage : w.stage = .validated
  · rw [if_neg (not_not_intro hstage)]
    apply Moves.ask
    intro answer
    cases answer with
    | error fault => exact ⟨_, _, rfl, .unsaved hstage⟩
    | ok location => exact ⟨_, _, rfl, .saved hstage⟩
  · rw [if_pos hstage]
    refine .pure (.misplaced ?_)
    revert hstage
    cases w.stage <;> simp [Command.fits]

theorem capture_watched (services : Services σ) (now : Moment) (s : σ) (log : List Contact) :
    ∃ s', (capture services.watched.database services.watched.schema now (s, log)).2
      = (s', log ++ [.database (.columns services.schema)]) :=
  ⟨_, rfl⟩

/-- What comes of a script between two snapshots, by what comes of its three parts. -/
theorem runBetweenSnapshots_eq (services : Services σ) (now : Moment) (script : List Char)
    (s : σ) :
    runBetweenSnapshots services now script s =
      match capture services.database services.schema now s with
      | (.error fault, s) => (.error (beforeRefusal fault), s)
      | (.ok before, s) =>
        match run services.database script s with
        | (.error failure, s) => (.error (runRefusal failure), s)
        | (.ok impact, s) =>
          match capture services.database services.schema now s with
          | (.error fault, s) => (.error (afterRefusal impact fault), s)
          | (.ok after, s) => (.ok (.build services.digest now before after impact), s) := by
  rcases h₁ : capture services.database services.schema now s with ⟨_ | before, s₁⟩
  · simp only [runBetweenSnapshots_def, bind, StateT.bind, h₁]
    rfl
  · rcases h₂ : run services.database script s₁ with ⟨_ | impact, s₂⟩
    · simp only [runBetweenSnapshots_def, bind, StateT.bind, h₁, h₂]
      rfl
    · rcases h₃ : capture services.database services.schema now s₂ with ⟨_ | after, s₃⟩
      · simp only [runBetweenSnapshots_def, bind, StateT.bind, h₁, h₂, h₃]
        rfl
      · simp only [runBetweenSnapshots_def, bind, StateT.bind, h₁, h₂, h₃]
        rfl

/-- The deployment of an approved script, whatever comes of it. -/
theorem deploy_approved (services : Services σ) (now : Moment) {w : Workflow}
    {script : List Char} (hstage : w.stage = .approved) (hp : w.pendingScript = some script) :
    Moves services now w .deploy (do
      match ← runBetweenSnapshots services.watched now script with
      | .error refusal => return (.error refusal, w)
      | .ok report =>
        return (.ok (deployProgress report),
          { w with stage := .completed, report := some report })) := by
  intro s log
  simp only [bind, StateT.bind]
  rw [runBetweenSnapshots_eq]
  -- the schema is looked at first
  obtain ⟨s₁, hs₁⟩ := capture_watched services now s log
  rcases hbefore : capture services.watched.database services.watched.schema now (s, log)
    with ⟨before, state⟩
  rw [hbefore] at hs₁
  dsimp only at hs₁
  subst hs₁
  cases before with
  | error fault => exact ⟨_, _, s₁, _, rfl, .unseen hstage hp⟩
  | ok before =>
    -- then the script runs, to its end or to the statement that fails
    obtain ⟨s₂, asked, hs₂, hends⟩ := runAll_watched services (fragments script) .none s₁
      (log ++ [.database (.columns services.schema)])
    rcases hrun : runAll services.watched.database .none (fragments script)
      (s₁, log ++ [.database (.columns services.schema)]) with ⟨result, state⟩
    rw [hrun] at hs₂ hends
    dsimp only at hs₂ hends
    subst hs₂
    dsimp only [run_eq]
    rw [hrun]
    cases result with
    | error failure =>
      obtain ⟨before, behind, hstatements, happlied, rfl⟩ := hends
      refine ⟨_, _, s₂, _, ?_, .failed hstage hp hstatements happlied⟩
      rw [List.append_assoc]
      rfl
    | ok impact =>
      obtain ⟨hexecuted, rfl⟩ := hends
      dsimp only
      -- and only behind a script that ran is the schema looked at again
      obtain ⟨s₃, hs₃⟩ := capture_watched services now s₂
        (log ++ [.database (.columns services.schema)] ++ (fragments script).map askToRun)
      rcases hafter : capture services.watched.database services.watched.schema now
        (s₂, log ++ [.database (.columns services.schema)] ++ (fragments script).map askToRun)
        with ⟨after, state⟩
      rw [hafter] at hs₃
      dsimp only at hs₃
      subst hs₃
      cases after with
      | error fault =>
        refine ⟨.error (afterRefusal impact fault), w, s₃, _, ?_, .unconfirmed hstage hp hexecuted⟩
        rw [hafter, List.append_assoc, List.append_assoc]
        rfl
      | ok after =>
        refine ⟨.ok (deployProgress (.build services.digest now before after impact)), _, s₃, _,
          ?_, .deployed hstage hp hexecuted⟩
        rw [hafter, List.append_assoc, List.append_assoc]
        rfl

theorem tryDeploy_watched (services : Services σ) (now : Moment) (w : Workflow) :
    Moves services now w .deploy (tryDeploy services.watched now w) := by
  rw [tryDeploy_def]
  by_cases hstage : w.stage = .approved
  · rw [if_neg (not_not_intro hstage)]
    cases hp : w.pendingScript with
    | none => exact .pure (.nothingToDeploy hstage hp)
    | some script => exact deploy_approved services now hstage hp
  · rw [if_pos hstage]
    refine .pure (.misplaced ?_)
    revert hstage
    cases w.stage <;> simp [Command.fits]

/-- The approval in its two steps, or at a stage that is not the one for it. -/
theorem approve_watched (services : Services σ) (now : Moment) (w : Workflow) (s : σ)
    (log : List Contact) :
    ∃ result w', Move services.schema services.digest now w .approve result w' [] ∧
      approve services.watched now w (s, log)
        = finish services.watched now w' (Command.approve.step w.stage) result (s, log) := by
  cases hstage : w.stage with
  | backupCreated =>
    refine ⟨?_, ?_, ?move, ?equation⟩
    case equation =>
      simp only [approve, hstage]
      rfl
    case move => exact .requested hstage
  | approvalPending =>
    refine ⟨?_, ?_, ?move, ?equation⟩
    case equation =>
      simp only [approve, hstage]
      rfl
    case move => exact .approved hstage
  | _ =>
    refine ⟨?_, w, ?move, ?equation⟩
    case equation =>
      simp only [approve, hstage]
      rfl
    case move => exact .misplaced (by rw [hstage]; rfl)

/-- **Every step is one of the moves, with its log line and its record behind it.** -/
theorem perform_watched (services : Services σ) (now : Moment) (w : Workflow)
    (command : Command) (s : σ) (log : List Contact) :
    ∃ result w' s' asked, Move services.schema services.digest now w command result w' asked ∧
      perform services.watched now w command (s, log)
        = finish services.watched now w' (command.step w.stage) result (s', log ++ asked) := by
  -- whatever the move, the record of the step comes last
  have key : ∀ {m : StateM (σ × List Contact) (Except Refusal Progress × Workflow)},
      Moves services now w command m → ∃ result w' s' asked,
        Move services.schema services.digest now w command result w' asked ∧
        (m >>= fun r => finish services.watched now r.2 (command.step w.stage) r.1) (s, log)
          = finish services.watched now w' (command.step w.stage) result (s', log ++ asked) := by
    intro m hm
    obtain ⟨result, w', s', asked, heq, hmove⟩ := hm s log
    refine ⟨result, w', s', asked, hmove, ?_⟩
    simp only [bind, StateT.bind, heq]
  cases command with
  | setScript script => exact key (.pure (.setScript))
  | validate => exact key (tryValidate_watched services now w)
  | backup => exact key (tryBackup_watched services now w)
  | deploy => exact key (tryDeploy_watched services now w)
  | reset => exact key (.pure .reset)
  | approve =>
    obtain ⟨result, w', hmove, heq⟩ := approve_watched services now w s log
    refine ⟨result, w', s, [], hmove, ?_⟩
    rw [List.append_nil]
    exact heq

end Workflow

end ScriptGate.Deployment
