/-
  ScriptGate.Proofs.Deployment.Trail — the log and the audit trail of a deployment.

  A deployment writes every call down twice: as a line of its own log, which is emptied at each
  start, and as a record in the audit trail, which is not.  Where the trail is kept in memory and
  nothing else writes to it, both books agree with what the calls came to, however the validator,
  the backup and the database answer.
  Main statements:
    - `perform_kept`   — a call is a move, its line in the log and one record in the trail;
    - `perform_entry`  — that record is one more entry, in front of those that are there;
    - `latest_snoc`    — a start empties the log, and no other call does;
    - `turns_written`  — both books of a deployment, after any calls.
-/
import Mathlib.Data.List.Forall2
import ScriptGate.Proofs.Deployment.History
import ScriptGate.Proofs.Deployment.Reached

namespace ScriptGate.Audit

/-! ## §1. Records -/

/-- The records of a trail, the oldest first. -/
def Trail.records (t : Trail) : List Record := (t.entries.map Entry.record).reverse

theorem Trail.records_append (t : Trail) (now : Moment) (r : Record) :
    (t.append now r).records = t.records ++ [r] := List.reverse_cons

theorem Trail.length_records (t : Trail) : t.records.length = t.entries.length := by
  unfold records
  rw [List.length_reverse, List.length_map]

end ScriptGate.Audit

namespace ScriptGate.Deployment

open ScriptGate.Audit

/-- The record tells of the outcome; for a refusal it has the first characters of the message, two
    thousand at most. -/
structure Tells (r : Record) (o : Outcome) : Prop where
  source : r.source = "Workflow"
  action : r.action = o.step.label
  status : r.status = o.status
  details : o.success = false → r.details = String.ofList (o.message.toList.take 2000)

/-- The record that a step leaves tells of its outcome. -/
theorem tells_recordOf (stage : Stage) (step : Step) (result : Except Refusal Progress) :
    Tells (Workflow.recordOf step result) (Workflow.outcomeOf stage step result) := by
  cases result with
  | ok p => exact ⟨rfl, rfl, rfl, fun h => Bool.noConfusion h⟩
  | error r => exact ⟨rfl, rfl, rfl, fun _ => rfl⟩

/-! ## §2. A trail of its own -/

/-- The computation beside a trail that it does not touch. -/
def besideTrail (m : StateM τ α) : StateM (τ × Trail) α := fun s =>
  ((m s.1).1, ((m s.1).2, s.2))

/-- The services, with a trail in memory that nothing else writes to. -/
def Services.kept (services : Services τ) : Services (τ × Trail) where
  validate script := besideTrail (services.validate script)
  backup := besideTrail services.backup
  record := Store.memory.append
  database := services.database.beside
  schema := services.schema
  digest := services.digest

/-- The record that a question asks to keep. -/
def Contact.record? : Contact → Option Record
  | .record kept => some kept
  | _ => none

/-- The trail has the records `prior` and, behind them, those that were asked for. -/
def Noted (prior : List Record) (s : (τ × Trail) × List Contact) : Prop :=
  s.1.2.records = prior ++ s.2.filterMap Contact.record?

section

variable {prior : List Record} {u u' : τ} {trail : Trail} {log : List Contact}

/-- Other questions leave the trail as it is. -/
theorem Noted.ask (h : Noted prior ((u, trail), log)) {contact : Contact}
    (hcontact : contact.record? = none) : Noted prior ((u', trail), log ++ [contact]) := by
  unfold Noted at h ⊢
  rw [List.filterMap_append, List.filterMap_cons_none hcontact, List.filterMap_nil,
    List.append_nil]
  exact h

/-- A record that is asked for is kept. -/
theorem Noted.record (h : Noted prior ((u, trail), log)) (now : Moment) (kept : Record) :
    Noted prior ((u, trail.append now kept), log ++ [.record kept]) := by
  unfold Noted at h ⊢
  have hnew : (log ++ [Contact.record kept]).filterMap Contact.record?
      = log.filterMap Contact.record? ++ [kept] := List.filterMap_append
  rw [hnew, Trail.records_append, h, List.append_assoc]

end

/-- The trail has what was asked for, question by question. -/
theorem noted_alike (services : Services τ) (prior : List Record) :
    Services.Alike (fun s t => s = t ∧ Noted prior s) services.kept.watched
      services.kept.watched where
  validate script := by
    rintro ⟨⟨u, trail⟩, log⟩ _ ⟨rfl, h⟩
    exact ⟨rfl, rfl, h.ask rfl⟩
  backup := by
    rintro ⟨⟨u, trail⟩, log⟩ _ ⟨rfl, h⟩
    exact ⟨rfl, rfl, h.ask rfl⟩
  record now kept := by
    rintro ⟨⟨u, trail⟩, log⟩ _ ⟨rfl, h⟩
    exact ⟨rfl, h.record now kept⟩
  ask call := by
    rintro ⟨⟨u, trail⟩, log⟩ _ ⟨rfl, h⟩
    exact ⟨rfl, rfl, h.ask rfl⟩
  schema := rfl
  digest := rfl

namespace Workflow

section

variable {schema : String} {digest : Schema.Snapshot.Digest} {now : Moment} {w moved : Workflow}
  {command : Command} {result : Except Refusal Progress} {asked : List Contact}

/-- What a move asks before its step is recorded is no record. -/
theorem Move.asks_no_record (h : Move schema digest now w command result moved asked) :
    asked.filterMap Contact.record? = [] := by
  have hrun : ∀ statements : List (List Char),
      (statements.map askToRun).filterMap Contact.record? = [] := by
    intro statements
    rw [List.filterMap_map]
    exact List.filterMap_eq_nil_iff.2 fun _ _ => rfl
  cases h with
  | failed =>
    exact (List.filterMap_cons_none rfl).trans (hrun _)
  | unconfirmed | deployed =>
    rw [List.filterMap_append, List.filterMap_cons_none rfl, hrun]
    rfl
  | _ => rfl

end

/-- **A call is a move, its line in the log and one record in the trail.** -/
theorem perform_kept (services : Services τ) (now : Moment) (w : Workflow) (command : Command)
    (world : τ) (trail : Trail) :
    ∃ result moved asked, Move services.schema services.digest now w command result moved asked ∧
      (perform services.kept now w command (world, trail)).1
        = (outcomeOf moved.stage (command.step w.stage) result,
          logged now moved (command.step w.stage) result) ∧
      (perform services.kept now w command (world, trail)).2.2.records
        = trail.records ++ [recordOf (command.step w.stage) result] := by
  obtain ⟨result, moved, asked, s', hmove, heq⟩ :=
    attempt_move services.kept now w command (world, trail)
  have hperform := perform_attempt services.kept now w command (world, trail)
  -- the trail has the records that the call asked for, and it asked for one
  have hnoted : Noted trail.records ((attempt services.kept now w command (world, trail)).2.2,
      (attempt services.kept now w command (world, trail)).1.contacts) :=
    (perform_alike (noted_alike services trail.records) now w command ((world, trail), []) _
      ⟨rfl, (List.append_nil _).symm⟩).2.2
  refine ⟨result, moved, asked, hmove, ?_, ?_⟩
  · rw [hperform, heq]
  · rw [heq] at hnoted
    rw [hperform, heq]
    unfold Noted at hnoted
    rw [hnoted, List.filterMap_append, hmove.asks_no_record]
    rfl

/-- No call touches the entries that are there. -/
theorem suffix_alike (services : Services τ) (prior : List Entry) :
    Services.Alike (fun s t => s = t ∧ prior <:+ s.2.entries) services.kept services.kept where
  validate script := by
    rintro ⟨u, trail⟩ _ ⟨rfl, h⟩
    exact ⟨rfl, rfl, h⟩
  backup := by
    rintro ⟨u, trail⟩ _ ⟨rfl, h⟩
    exact ⟨rfl, rfl, h⟩
  record now kept := by
    rintro ⟨u, trail⟩ _ ⟨rfl, h⟩
    exact ⟨rfl, h.trans (List.suffix_cons _ _)⟩
  ask call := by
    rintro ⟨u, trail⟩ _ ⟨rfl, h⟩
    exact ⟨rfl, rfl, h⟩
  schema := rfl
  digest := rfl

/-- **A call adds one entry to the trail**, named for its step. -/
theorem perform_entry (services : Services τ) (now : Moment) (w : Workflow) (command : Command)
    (world : τ) (trail : Trail) :
    ∃ entry,
      (perform services.kept now w command (world, trail)).2.2.entries = entry :: trail.entries ∧
      entry.record.action = (command.step w.stage).label := by
  obtain ⟨result, moved, asked, -, -, hrecords⟩ := perform_kept services now w command world trail
  obtain ⟨added, hadded⟩ := (perform_alike (suffix_alike services trail.entries) now w command
    (world, trail) _ ⟨rfl, List.suffix_refl _⟩).2.2
  -- what was added is one record
  have hone : added.map Entry.record = [recordOf (command.step w.stage) result] := by
    unfold Trail.records at hrecords
    rw [← hadded, List.map_append, List.reverse_append, List.append_cancel_left_eq,
      List.reverse_eq_iff] at hrecords
    exact hrecords
  obtain ⟨entry, rfl, hentry⟩ := List.map_eq_singleton_iff.1 hone
  refine ⟨entry, hadded.symm, ?_⟩
  rw [hentry]
  cases result <;> rfl

end Workflow

/-! ## §3. Calls, and where the last start is -/

/-- A call of a deployment. -/
structure Turn where
  /-- what was to be done -/
  command : Workflow.Command
  /-- what came of it -/
  outcome : Outcome
deriving DecidableEq, Repr

/-- Does the call start the deployment over? -/
def Turn.restarts (t : Turn) : Bool := Event.restarts ⟨t.command, t.outcome, []⟩

/-- The calls from the last start on, or all of them where there is no start. -/
def latest : List Turn → List Turn
  | [] => []
  | t :: rest => if rest.any Turn.restarts then latest rest else t :: rest

/-- **A start empties what came before it, and no other call does.** -/
theorem latest_snoc (turns : List Turn) (t : Turn) :
    latest (turns ++ [t]) = if t.restarts then [t] else latest turns ++ [t] := by
  induction turns with
  | nil => cases t.restarts <;> rfl
  | cons first rest ih =>
    rw [List.cons_append, latest, latest, ih, List.any_append]
    by_cases ht : t.restarts = true
    · simp [ht]
    · by_cases hrest : rest.any Turn.restarts = true
      · simp [ht, hrest]
      · simp [ht, hrest]

/-- A move starts with an empty log if it starts over, and with the log as it was if not. -/
theorem Workflow.Move.log_eq {schema : String} {digest : Schema.Snapshot.Digest} {now : Moment}
    {w moved : Workflow} {command : Workflow.Command} {result : Except Refusal Progress}
    {asked : List Contact} (h : Move schema digest now w command result moved asked)
    (outcome : Outcome) :
    moved.log = if (Turn.mk command outcome).restarts then [] else w.log := by
  cases h with
  | misplaced hfits =>
    -- every stage is the stage for a start
    cases command with
    | setScript | reset => exact Bool.noConfusion hfits
    | _ => rfl
  | _ => rfl

/-! ## §4. Both books -/

/-- A deployment with its audit trail and the calls that led there. -/
structure Course where
  /-- the deployment -/
  workflow : Workflow
  /-- the trail -/
  trail : Trail
  /-- the calls, the first one first -/
  turns : List Turn

/-- The course behind one more visit. -/
def Course.visited (services : Services τ) (c : Course) (v : Visit τ) : Course :=
  let r := c.workflow.perform services.kept v.now v.command (v.world, c.trail)
  ⟨r.1.2, r.2.2, c.turns ++ [⟨v.command, r.1.1⟩]⟩

/-- The course that visits make, from a new deployment and an empty trail on. -/
def course (services : Services τ) (visits : List (Visit τ)) : Course :=
  visits.foldl (Course.visited services) ⟨.new, .empty, []⟩

theorem course_snoc (services : Services τ) (earlier : List (Visit τ)) (v : Visit τ) :
    course services (earlier ++ [v]) = (course services earlier).visited services v := by
  unfold course
  rw [List.foldl_append]
  rfl

/-- A visit is a move, with what is written down of it. -/
theorem Course.visited_move (services : Services τ) (c : Course) (v : Visit τ) :
    ∃ result moved asked, Workflow.Move services.schema services.digest v.now c.workflow v.command
        result moved asked ∧
      (c.visited services v).workflow
        = Workflow.logged v.now moved (v.command.step c.workflow.stage) result ∧
      (c.visited services v).turns = c.turns ++ [⟨v.command,
        Workflow.outcomeOf moved.stage (v.command.step c.workflow.stage) result⟩] ∧
      (c.visited services v).trail.records = c.trail.records ++
        [Workflow.recordOf (v.command.step c.workflow.stage) result] := by
  obtain ⟨result, moved, asked, hmove, hperform, hrecords⟩ :=
    Workflow.perform_kept services v.now c.workflow v.command v.world c.trail
  refine ⟨result, moved, asked, hmove, congrArg Prod.snd hperform, ?_, hrecords⟩
  exact congrArg (fun r => c.turns ++ [⟨v.command, r.1⟩]) hperform

/-- Both books agree with the calls. -/
structure Written (visits : List (Visit τ)) (c : Course) : Prop where
  turns : c.turns.map Turn.command = visits.map Visit.command
  trail : List.Forall₂ Tells c.trail.records (c.turns.map Turn.outcome)
  log : c.workflow.log.map LogLine.message = (latest c.turns).map (·.outcome.message)

/-- **A call is written down in both books.** -/
theorem Written.visited (services : Services τ) {visits : List (Visit τ)} {c : Course}
    (h : Written visits c) (v : Visit τ) :
    Written (visits ++ [v]) (c.visited services v) := by
  obtain ⟨result, moved, asked, hmove, hworkflow, hturns, hrecords⟩ := c.visited_move services v
  refine ⟨?_, ?_, ?_⟩
  · rw [hturns, List.map_append, List.map_append, h.turns]
    rfl
  · rw [hturns, hrecords, List.map_append]
    exact List.rel_append h.trail (.cons (tells_recordOf _ _ _) .nil)
  · -- the line comes behind the log as the move leaves it
    rw [hworkflow, hturns, latest_snoc]
    unfold Workflow.logged
    rw [hmove.log_eq (Workflow.outcomeOf moved.stage (v.command.step c.workflow.stage) result)]
    split
    case isTrue hstart => rfl
    case isFalse hstays =>
      rw [List.map_append, List.map_append, h.log]
      rfl

/-- The books agree with the calls after any visits. -/
theorem written_course (services : Services τ) (visits : List (Visit τ)) :
    Written visits (course services visits) := by
  induction visits using List.reverseRecOn with
  | nil => exact ⟨rfl, .nil, rfl⟩
  | append_singleton earlier v ih =>
    rw [course_snoc]
    exact ih.visited services v

/-- **Both books of a deployment, after any calls.**  The trail has one entry for each call, in
    order, and it tells of its outcome; the log has the messages of the calls from the last start
    on. -/
theorem turns_written (services : Services τ) (visits : List (Visit τ)) :
    let c := course services visits
    c.turns.map Turn.command = visits.map Visit.command ∧
    c.trail.entries.length = visits.length ∧
    List.Forall₂ Tells c.trail.records (c.turns.map Turn.outcome) ∧
    c.workflow.log.map LogLine.message = (latest c.turns).map (·.outcome.message) := by
  intro c
  obtain ⟨hturns, htrail, hlog⟩ := written_course services visits
  refine ⟨hturns, ?_, htrail, hlog⟩
  calc c.trail.entries.length
      = c.trail.records.length := c.trail.length_records.symm
    _ = (c.turns.map Turn.outcome).length := htrail.length_eq
    _ = (c.turns.map Turn.command).length := by rw [List.length_map, List.length_map]
    _ = visits.length := by rw [hturns, List.length_map]

/-- A complaint of 2001 characters. -/
def complaint : String := String.ofList ('#' :: List.replicate 2000 '.')

/-- Services that turn every script away with it. -/
def wordy : Services Unit where
  validate _ := return .error (.validation complaint)
  backup := agreeable.backup
  record := agreeable.record
  database := agreeable.database
  schema := agreeable.schema
  digest := agreeable.digest

/-- The complaint is told as it is, and the trail keeps its first 2000 characters. -/
theorem wordy_written :
    let c := course wordy [⟨default, .setScript "SELECT 1".toList, ()⟩, ⟨default, .validate, ()⟩]
    let refused : Outcome := ⟨.validate, false, .failed, .draft, complaint, some .validation⟩
    c.turns.map Turn.outcome
      = [⟨.start, true, .draft, .draft, "Workflow initialized with SQL script", none⟩, refused] ∧
    ∃ started kept, c.trail.records = [started, kept] ∧
      kept.details = String.ofList ('#' :: List.replicate 1999 '.') := by
  intro c refused
  have houtcomes : c.turns.map Turn.outcome
      = [⟨.start, true, .draft, .draft, "Workflow initialized with SQL script", none⟩, refused] :=
    by rfl
  obtain ⟨-, -, htells, -⟩ := turns_written wordy
    [⟨default, .setScript "SELECT 1".toList, ()⟩, ⟨default, .validate, ()⟩]
  rw [show (course wordy _).turns.map Turn.outcome = _ from houtcomes] at htells
  obtain ⟨started, rest, -, hrest, hrecords⟩ := List.forall₂_cons_right_iff.1 htells
  obtain ⟨kept, none, htold, hnone, rfl⟩ := List.forall₂_cons_right_iff.1 hrest
  obtain rfl := List.forall₂_nil_right_iff.1 hnone
  refine ⟨houtcomes, started, kept, hrecords, ?_⟩
  rw [htold.details rfl]
  show String.ofList ((String.ofList ('#' :: List.replicate 2000 '.')).toList.take 2000) = _
  rw [String.toList_ofList, List.take_succ_cons, List.take_replicate,
    Nat.min_eq_left (show 1999 ≤ 2000 by decide)]

end ScriptGate.Deployment
