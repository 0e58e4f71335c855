/-
  ScriptGate.Proofs.Deployment.History — what happened to a deployment, event by event.

  An event is a command that was given, what came of it and what it asked of others.  A history is
  made by carrying commands out one after the other, each on what the one before it left behind.
  Main statements:
    - `perform_attempt`   — what is taken down of a command is what comes of it;
    - `outcome_history`   — the outcomes of a history are those of carrying the commands out;
    - `attempt_move`      — an event is a move, its line in the log and its record;
    - `succeeded_validate_iff`, `succeeded_backup_iff` — the replies behind a command that was
                            carried out;
    - `history_invariant` — what every event keeps holds of every point of a history.
-/
import ScriptGate.Proofs.Deployment.Simulation
import ScriptGate.Proofs.Deployment.Watch

namespace ScriptGate.Deployment

open ScriptGate.Audit ScriptGate.Script

/-! ## §1. Events -/

/-- A command that was given. -/
structure Event where
  /-- the command -/
  command : Workflow.Command
  /-- what came of it -/
  outcome : Outcome
  /-- what it asked of others, in order -/
  contacts : List Contact
deriving DecidableEq, Repr

/-- The call that a question puts to the database. -/
def Contact.call? : Contact → Option Database.Call
  | .database call => some call
  | _ => none

/-- The statement that a question has the database run. -/
def Contact.statement? : Contact → Option (List Char)
  | .database (.execute sql) | .database (.counted sql) => some sql
  | _ => none

/-- The script that a question puts to the validator. -/
def Contact.script? : Contact → Option (List Char)
  | .validate script => some script
  | _ => none

namespace Event

/-- Was the command carried out? -/
def succeeded (e : Event) : Bool := e.outcome.success

/-- Does the command start the deployment over? -/
def restarts (e : Event) : Bool :=
  match e.command with
  | .setScript _ | .reset => true
  | _ => false

/-- The calls of the database. -/
def calls (e : Event) : List Database.Call := e.contacts.filterMap Contact.call?

/-- The statements that the database was to run. -/
def statements (e : Event) : List (List Char) := e.contacts.filterMap Contact.statement?

/-- Was this text validated, and no other put to the validator? -/
def accepts (e : Event) (text : List Char) : Prop :=
  e.command = .validate ∧ e.succeeded = true ∧ e.contacts.filterMap Contact.script? = [text]

end Event

theorem statement?_askToRun (statement : List Char) :
    (askToRun statement).statement? = some statement := by
  unfold askToRun callOf
  by_cases h : (kindOf statement).isDml = true
  · rw [if_pos h]
    rfl
  · rw [if_neg h]
    rfl

/-- The statements that are asked for are those that are to run. -/
theorem filterMap_askToRun (statements : List (List Char)) :
    (statements.map askToRun).filterMap Contact.statement? = statements := by
  induction statements with
  | nil => rfl
  | cons statement rest ih =>
    rw [List.map_cons, List.filterMap_cons, statement?_askToRun, ih]

/-! ## §2. Histories -/

namespace Workflow

/-- Carries a command out and takes down what happened. -/
def attempt (services : Services σ) (now : Moment) (w : Workflow) (command : Command) (s : σ) :
    Event × Workflow × σ :=
  let r := perform services.watched now w command (s, [])
  (⟨command, r.1.1, r.2.2⟩, r.1.2, r.2.1)

/-- What happens to a deployment when commands are given one after the other. -/
def history (services : Services σ) : List (Moment × Command) → Workflow → σ → List Event
  | [], _, _ => []
  | (now, command) :: rest, w, s =>
    let (e, w', s') := attempt services now w command s
    e :: history services rest w' s'

/-- The outcomes of carrying commands out one after the other. -/
def outcomes (services : Services σ) : List (Moment × Command) → Workflow → σ → List Outcome
  | [], _, _ => []
  | (now, command) :: rest, w, s =>
    let ((outcome, w'), s') := perform services now w command s
    outcome :: outcomes services rest w' s'

/-- The watched services give the answers of the services themselves. -/
theorem watched_alike (services : Services σ) :
    Services.Alike (fun (t : σ × List Contact) s => t.1 = s) services.watched services where
  validate script := by
    rintro ⟨s, log⟩ _ rfl
    exact ⟨rfl, rfl⟩
  backup := by
    rintro ⟨s, log⟩ _ rfl
    exact ⟨rfl, rfl⟩
  record now kept := by
    rintro ⟨s, log⟩ _ rfl
    rfl
  ask call := by
    rintro ⟨s, log⟩ _ rfl
    exact ⟨rfl, rfl⟩
  schema := rfl
  digest := rfl

/-- Carrying a command out comes to what is taken down of it. -/
theorem perform_attempt (services : Services σ) (now : Moment) (w : Workflow) (command : Command)
    (s : σ) :
    let a := attempt services now w command s
    perform services now w command s = ((a.1.outcome, a.2.1), a.2.2) := by
  obtain ⟨hanswer, hstate⟩ := perform_alike (watched_alike services) now w command (s, []) s rfl
  exact Prod.ext hanswer.symm hstate.symm

/-- **The outcomes of a history are those of carrying the commands out.** -/
theorem outcome_history (services : Services σ) (commands : List (Moment × Command)) :
    ∀ (w : Workflow) (s : σ),
      (history services commands w s).map Event.outcome = outcomes services commands w s := by
  induction commands with
  | nil => exact fun w s => rfl
  | cons given rest ih =>
    intro w s
    obtain ⟨now, command⟩ := given
    show (attempt services now w command s).1.outcome ::
      (history services rest (attempt services now w command s).2.1
        (attempt services now w command s).2.2).map Event.outcome = _
    rw [ih, outcomes, perform_attempt]

theorem command_history (services : Services σ) (commands : List (Moment × Command)) :
    ∀ (w : Workflow) (s : σ),
      (history services commands w s).map Event.command = commands.map Prod.snd := by
  induction commands with
  | nil => exact fun w s => rfl
  | cons given rest ih =>
    intro w s
    exact congrArg (given.2 :: ·) (ih _ _)

/-- The deployment with the line of a step in its log. -/
def logged (now : Moment) (w : Workflow) (step : Step) (result : Except Refusal Progress) :
    Workflow :=
  { w with log := w.log ++ [⟨now.timeOfDay, (outcomeOf w.stage step result).message⟩] }

/-- **An event is a move, its line in the log and its record.** -/
theorem attempt_move (services : Services σ) (now : Moment) (w : Workflow) (command : Command)
    (s : σ) :
    ∃ result w' asked s', Move services.schema services.digest now w command result w' asked ∧
      attempt services now w command s =
        (⟨command, outcomeOf w'.stage (command.step w.stage) result,
          asked ++ [.record (recordOf (command.step w.stage) result)]⟩,
        logged now w' (command.step w.stage) result, s') := by
  obtain ⟨result, w', s', asked, hmove, heq⟩ := perform_watched services now w command s []
  refine ⟨result, w', asked, (services.record now (recordOf (command.step w.stage) result) s').2,
    hmove, ?_⟩
  unfold attempt
  rw [heq]
  rfl

theorem succeeded_attempt (services : Services σ) (now : Moment) (w : Workflow)
    (command : Command) (s : σ) :
    (attempt services now w command s).1.succeeded
      = (perform services now w command s).1.1.success :=
  (congrArg (·.1.1.success) (perform_attempt services now w command s)).symm

/-- **A validation is carried out** if the validator has no fault to find in the pending script. -/
theorem succeeded_validate_iff (services : Services σ) (now : Moment) (w : Workflow) (s : σ) :
    (attempt services now w .validate s).1.succeeded = true ↔
      w.stage = .draft ∧ ∃ script, w.pendingScript = some script ∧
        (services.validate script s).1 = .ok () := by
  have hoks : (attempt services now w .validate s).1.succeeded
      = (tryValidate services w s).1.1.isOk := by
    rw [succeeded_attempt]
    exact (success_outcomeOf _ _ _).1
  rw [hoks, tryValidate]
  by_cases hstage : w.stage = .draft
  · rw [if_neg (not_not_intro hstage)]
    cases hp : w.pendingScript with
    | none => exact iff_of_false Bool.false_ne_true nofun
    | some script =>
      simp only [bind, StateT.bind]
      rcases hanswer : services.validate script s with ⟨fault | _, s'⟩
      · refine iff_of_false Bool.false_ne_true ?_
        rintro ⟨-, asked, hasked, haccepted⟩
        obtain rfl : script = asked := Option.some.inj hasked
        rw [hanswer] at haccepted
        cases haccepted
      · exact iff_of_true rfl ⟨hstage, script, rfl, congrArg Prod.fst hanswer⟩
  · rw [if_pos hstage]
    exact iff_of_false Bool.false_ne_true fun h => hstage h.1

/-- **A backup is carried out** if there is a place to name. -/
theorem succeeded_backup_iff (services : Services σ) (now : Moment) (w : Workflow) (s : σ) :
    (attempt services now w .backup s).1.succeeded = true ↔
      w.stage = .validated ∧ ∃ location, (services.backup s).1 = .ok location := by
  have hoks : (attempt services now w .backup s).1.succeeded
      = (tryBackup services w s).1.1.isOk := by
    rw [succeeded_attempt]
    exact (success_outcomeOf _ _ _).1
  rw [hoks, tryBackup]
  by_cases hstage : w.stage = .validated
  · rw [if_neg (not_not_intro hstage)]
    simp only [bind, StateT.bind]
    rcases hanswer : services.backup s with ⟨fault | location, s'⟩
    · refine iff_of_false Bool.false_ne_true ?_
      rintro ⟨-, location, hlocation⟩
      cases hlocation
    · exact iff_of_true rfl ⟨hstage, location, rfl⟩
  · rw [if_pos hstage]
    exact iff_of_false Bool.false_ne_true fun h => hstage h.1

/-- A step is a move with its line in the log. -/
theorem perform_move (services : Services σ) (now : Moment) (w : Workflow) (command : Command)
    (s : σ) :
    ∃ result moved asked,
      Move services.schema services.digest now w command result moved asked ∧
      (perform services now w command s).1
        = (outcomeOf moved.stage (command.step w.stage) result,
          logged now moved (command.step w.stage) result) := by
  obtain ⟨result, moved, asked, s', hmove, heq⟩ := attempt_move services now w command s
  refine ⟨result, moved, asked, hmove, ?_⟩
  rw [perform_attempt, heq]

/-- **What every event keeps holds of every point of a history.** -/
theorem history_invariant {services : Services σ} {P : List Event → Workflow → Prop}
    (hstep : ∀ past w now command s, P past w →
      P (past ++ [(attempt services now w command s).1]) (attempt services now w command s).2.1)
    {past : List Event} {e : Event} {rest : List Event} :
    ∀ {commands : List (Moment × Command)} {w : Workflow} {s : σ} {before : List Event},
      P before w → history services commands w s = past ++ e :: rest →
      ∃ now command w' s', P (before ++ past) w' ∧ e = (attempt services now w' command s').1 := by
  -- by induction on the events in front of `e`; `before` takes them over one by one
  induction past with
  | nil =>
    intro commands w s before hP heq
    cases commands with
    | nil => exact absurd heq (by simp [history])
    | cons given commands =>
      obtain ⟨now, command⟩ := given
      injection heq with he _
      exact ⟨now, command, w, s, by rwa [List.append_nil], he.symm⟩
  | cons first past ih =>
    intro commands w s before hP heq
    cases commands with
    | nil => exact absurd heq (by simp [history])
    | cons given commands =>
      obtain ⟨now, command⟩ := given
      injection heq with hfirst htail
      obtain ⟨now', command', w', s', hP', he⟩ := ih (hstep before w now command s hP) htail
      refine ⟨now', command', w', s', ?_, he⟩
      rw [List.append_assoc] at hP'
      subst hfirst
      exact hP'

end Workflow

end ScriptGate.Deployment
