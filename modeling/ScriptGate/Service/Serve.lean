/-
  ScriptGate.Service.Serve — answering requests.

  The sessions are all that the service keeps of its own; the database and the audit trail are in
  the world behind the gate.  What comes of recording an action does not matter.  `Gate.answer` is
  the answer in a build for release and `Gate.answerChecked` that in a build that checks its sums:
  there a deployment may panic, and then the message has no answer, the deployment of its session is
  as it was before and the world as it was left.
  Main statements:
    - `answer_unread`      — a message that cannot be read changes nothing;
    - `onSession_open`, `onSession_none` — work is done on a session that is open, and on no other;
    - `onSession_ne`       — work on a session touches no other;
    - `serve_sessions_ne`  — neither does any request that names another session;
    - `follows_answerChecked` — with checked sums the answer is the same, or there is a panic.
-/
import ScriptGate.Schema.Prediction
import ScriptGate.Service.Gate
import ScriptGate.Service.Request
import ScriptGate.Service.Session
import ScriptGate.Wire.Deployment
import ScriptGate.Wire.Service

namespace ScriptGate.Service

open ScriptGate.Audit ScriptGate.Deployment ScriptGate.Review ScriptGate.Schema ScriptGate.Wire

/-! ## §1. State -/

/-- The sessions, and the world behind them. -/
structure State (σ : Type) where
  /-- the sessions -/
  sessions : Sessions
  /-- the world -/
  world : σ

namespace State

/-- Does something in the world. -/
def inWorld (act : StateM σ α) : StateM (State σ) α := fun s =>
  let (a, world) := act s.world
  (a, { s with world })

/-- Changes the sessions. -/
def change (f : Sessions → Sessions) : StateM (State σ) Unit := fun s =>
  ((), { s with sessions := f s.sessions })

/-- Drops idle sessions and tells how many. -/
def sweep (now : Moment) (seconds : Nat) (isBusy : Uuid → Bool) : StateM (State σ) Nat := fun s =>
  let (dropped, sessions) := s.sessions.sweep now seconds isBusy
  (dropped, { s with sessions })

end State

/-! ## §2. Work on a session -/

/-- The fault of a session that is not open. -/
def noSession (id : Uuid) : Fault := .notFound ("Session " ++ id.text ++ " not found")

/-- Works on the deployment of a session. -/
def onSession (now : Moment) (id : Uuid)
    (work : Workflow → StateM σ (Except Fault α × Workflow)) :
    StateM (State σ) (Except Fault α) := fun s =>
  match s.sessions.find? id with
  | none => (.error (noSession id), s)
  | some session =>
    let ((result, w), world) := work session.workflow s.world
    (result, ⟨s.sessions.kept id now w, world⟩)

/-- Work that may panic, on the deployment of a session: where it does, the deployment stays as it
    was. -/
def settled (work : Workflow → Checked σ (α × Workflow)) (w : Workflow) :
    StateM σ (Except Panic α × Workflow) := fun s =>
  match (work w).run s with
  | (.ok (a, w), s) => ((.ok a, w), s)
  | (.error panic, s) => ((.error panic, w), s)

/-- The answer to a step: its outcome, and the deployment behind it. -/
def stepAnswer (id : Uuid) (o : Outcome) (w : Workflow) : Answer :=
  ⟨statusOfOutcome o, .object (outcomeFields o ++ [("workflow", workflowJson id w)])⟩

/-- The record of a script that was taken. -/
def uploadRecord (script : String) : Record :=
  let statements := (Script.fragments script.toList).length
  .of "Upload SQL Script" "Development" .success
    (toString statements ++ " statement(s), " ++ toString script.length ++ " character(s)")

/-- The record of a review. -/
def reviewRecord (o : Overview) (what : String) : Record :=
  .of "Analyze SQL" "SQL Analysis" .view (toString o.findings.length ++ " finding(s)" ++ what)

namespace Gate

/-- Adds to the audit trail; what comes of it does not matter. -/
def record (g : Gate σ) (now : Moment) (r : Record) : StateM σ Unit := do
  let _ ← g.trail.append now r

/-- Carries a command out and tells the outcome. -/
def step (g : Gate σ) (now : Moment) (id : Uuid) (command : Workflow.Command) (w : Workflow) :
    StateM σ (Except Fault Answer × Workflow) := do
  let (outcome, w) ← w.perform g.services now command
  return (.ok (stepAnswer id outcome w), w)

/-- Carries a command out with checked sums and tells the outcome, or the panic. -/
def stepChecked (g : Gate σ) (now : Moment) (id : Uuid) (command : Workflow.Command)
    (w : Workflow) : StateM σ (Except Fault (Except Panic Answer) × Workflow) := do
  let (outcome, w) ← settled (Workflow.performWith checkedSum g.services now · command) w
  return (.ok (outcome.map fun o => stepAnswer id o w), w)

/-- Takes a script and records that. -/
def takeScript (g : Gate σ) (now : Moment) (id : Uuid) (script : String) (w : Workflow) :
    StateM σ (Except Fault Answer × Workflow) := do
  let result ← g.step now id (.setScript script.toList) w
  g.record now (uploadRecord script)
  return result

/-- Reviews the script of a deployment. -/
def analyzePending (g : Gate σ) (now : Moment) (id : Uuid) (w : Workflow) :
    StateM σ (Except Fault Answer × Workflow) := do
  match w.pendingScript with
  | none => return (.error (.badRequest "No SQL script uploaded for this session."), w)
  | some script =>
    let o := overview g.parser script true
    g.record now (reviewRecord o (" for session " ++ id.text))
    return (.ok (.ok (overviewFields o)), w)

/-! ## §3. Work without a session -/

/-- Reviews a text. -/
def analyze (g : Gate σ) (now : Moment) (sql : String) (perStatement : Bool) :
    StateM σ (Except Fault Answer) := do
  let o := overview g.parser sql.toList perStatement
  g.record now (reviewRecord o "")
  return .ok (.ok (overviewFields o))

/-- Compares a script with the schema as it is. -/
def compare (g : Gate σ) (now : Moment) (sql : String) : StateM σ (Except Fault Answer) := do
  return (← capture g.database g.schema now).map fun snapshot => .ok [
    ("schema", .text snapshot.schema), ("checksum", .text (snapshot.checksum g.digest)),
    ("predictions", .texts ((predict snapshot sql.toList).map Prediction.line))]

/-- Previews a query. -/
def showRows (g : Gate σ) (sql : String) : StateM σ (Except Fault Answer) := do
  return (← preview g.database g.previewLimit sql.toList).map fun p => .ok (previewFields p)

/-- Shows the newest entries of the audit trail. -/
def showHistory (g : Gate σ) (limit : Nat) : StateM σ (Except Fault Answer) := do
  return (← g.trail.list limit).map fun entries => .ok [
    ("count", .nat entries.length), ("entries", entriesJson entries)]

/-- Clears the audit trail. -/
def clearHistory (g : Gate σ) : StateM σ (Except Fault Answer) := do
  return (← g.trail.clear).map fun removed => .ok [
    ("message", .text ("Deleted " ++ toString removed ++ " history record(s)")),
    ("removed", .nat removed)]

end Gate

/-! ## §4. Requests -/

/-- The version of the service. -/
def version : String := "1.0.0"

/-- The service is there. -/
def healthAnswer (now : Moment) : Answer := .ok [
  ("message", .text "Server is running fine."), ("timestamp", .text now.stamp),
  ("version", .text version)]

/-- A session is open. -/
def openedAnswer (id : Uuid) : Answer :=
  ⟨201, (Answer.ok [("sessionId", .text id.text), ("state", .text Stage.draft.name)]).body⟩

/-- A session is closed. -/
def closedAnswer (id : Uuid) : Answer :=
  .ok [("message", .text ("Session " ++ id.text ++ " closed"))]

/-- The deployment of a session. -/
def workflowAnswer (id : Uuid) (w : Workflow) : Answer :=
  .ok [("message", .text ("Workflow is " ++ w.stage.name)), ("data", workflowJson id w)]

/-- Answers a request at a moment; a session that is opened gets a fresh identifier. -/
def Gate.serve (g : Gate σ) (now : Moment) (fresh : Uuid) :
    Request → StateM (State σ) (Except Fault Answer)
  | .health => return .ok (healthAnswer now)
  | .openSession => do
    State.change fun sessions => sessions.opened fresh now
    return .ok (openedAnswer fresh)
  | .closeSession id => do
    let found := (← get).sessions.find? id
    State.change fun sessions => sessions.closed id
    return if found.isSome then .ok (closedAnswer id) else .error (noSession id)
  | .setScript id script => onSession now id (g.takeScript now id script)
  | .showWorkflow id => onSession now id fun w => return (.ok (workflowAnswer id w), w)
  | .step id command => onSession now id (g.step now id command)
  | .analyzeSession id => onSession now id (g.analyzePending now id)
  | .analyze sql perStatement => State.inWorld (g.analyze now sql perStatement)
  | .compare sql => State.inWorld (g.compare now sql)
  | .preview sql => State.inWorld (g.showRows sql)
  | .showHistory limit => State.inWorld (g.showHistory limit)
  | .clearHistory => State.inWorld g.clearHistory

/-- Answers a request with checked sums: nothing but a step adds. -/
def Gate.serveChecked (g : Gate σ) (now : Moment) (fresh : Uuid) :
    Request → Checked (State σ) (Except Fault Answer)
  | .step id command => do
    match ← (onSession now id (g.stepChecked now id command) : StateM (State σ) _) with
    | .error fault => return .error fault
    | .ok (.ok answer) => return .ok answer
    | .ok (.error panic) => throw panic
  | request => (g.serve now fresh request : StateM (State σ) _)

/-- What is wanted: a head is what a body was asked for. -/
def Message.wanted (m : Message) : String := if m.method = "HEAD" then "GET" else m.method

/-- The answer as it is sent: a head is sent without the body. -/
def Message.sent (m : Message) (answer : Answer) : Answer :=
  if m.method = "HEAD" then .bare answer.status else answer

/-- Answers a message by serving what it asks for.  What may be asked from where is told
    anywhere. -/
def Message.answeredBy {n : Type → Type} [Monad n] (serve : Request → n (Except Fault Answer))
    (m : Message) : n Answer := do
  if m.method = "OPTIONS" then return .bare 200
  match Request.read m m.wanted with
  | .error answer => return m.sent answer
  | .ok request => return m.sent (.ofResult (← serve request))

/-- Answers a message. -/
def Gate.answer (g : Gate σ) (now : Moment) (fresh : Uuid) (m : Message) :
    StateM (State σ) Answer :=
  m.answeredBy (g.serve now fresh)

/-- Answers a message with checked sums. -/
def Gate.answerChecked (g : Gate σ) (now : Moment) (fresh : Uuid) (m : Message) :
    Checked (State σ) Answer :=
  m.answeredBy (g.serveChecked now fresh)

/-! ## §5. Laws -/

/-- A message that cannot be read changes nothing. -/
theorem answer_unread (g : Gate σ) (now : Moment) (fresh : Uuid) {m : Message} {a : Answer}
    (hm : m.method ≠ "OPTIONS") (h : Request.read m m.wanted = .error a) (s : State σ) :
    g.answer now fresh m s = (m.sent a, s) := by
  simp only [Gate.answer, Message.answeredBy, if_neg hm, h]
  rfl

/-- What is done in the world leaves the sessions as they are. -/
theorem State.inWorld_eq (act : StateM σ α) (s : State σ) :
    State.inWorld act s = ((act s.world).1, ⟨s.sessions, (act s.world).2⟩) := rfl

/-- Work on a session that is open. -/
theorem onSession_open {s : State σ} {id : Uuid} {session : Session}
    (h : s.sessions.find? id = some session) (now : Moment)
    (work : Workflow → StateM σ (Except Fault α × Workflow)) :
    onSession now id work s = ((work session.workflow s.world).1.1,
      ⟨s.sessions.kept id now (work session.workflow s.world).1.2,
        (work session.workflow s.world).2⟩) := by
  simp only [onSession, h]
  rfl

/-- Nothing is done on a session that is not open. -/
theorem onSession_none {s : State σ} {id : Uuid} (h : s.sessions.find? id = none) (now : Moment)
    (work : Workflow → StateM σ (Except Fault α × Workflow)) :
    onSession now id work s = (.error (noSession id), s) := by
  simp only [onSession, h]

/-- Work on a session touches no other. -/
theorem onSession_ne (now : Moment) {id other : Uuid} (h : other ≠ id)
    (work : Workflow → StateM σ (Except Fault α × Workflow)) (s : State σ) :
    (onSession now id work s).2.sessions.find? other = s.sessions.find? other := by
  simp only [onSession]
  split
  · rfl
  · exact Sessions.find?_kept_ne _ h now _

/-- A step with checked sums answers as the other one does, or panics. -/
theorem stepChecked_eq (g : Gate σ) (now : Moment) (id : Uuid) (command : Workflow.Command)
    (w : Workflow) (s : σ) :
    (∃ answer, (g.step now id command w s).1.1 = .ok answer ∧
      g.stepChecked now id command w s
        = ((.ok (.ok answer), (g.step now id command w s).1.2), (g.step now id command w s).2)) ∨
      ∃ panic, (g.stepChecked now id command w s).1 = (.ok (.error panic), w) := by
  have hstep : g.stepChecked now id command w s =
      match settled (Workflow.performWith checkedSum g.services now · command) w s with
      | ((outcome, w), s) => ((.ok (outcome.map fun o => stepAnswer id o w), w), s) := rfl
  rw [hstep]
  unfold settled
  rcases Workflow.follows_performWith g.services now w command s with hsame | ⟨panic, hpanic⟩
  · rw [hsame]
    exact .inl ⟨_, rfl, rfl⟩
  · refine .inr ⟨panic, ?_⟩
    generalize (Workflow.performWith checkedSum g.services now w command : Checked σ _).run s = r
      at hpanic
    obtain ⟨result, s'⟩ := r
    obtain rfl : result = .error panic := hpanic
    rfl

/-- What serving a step with checked sums makes of the work on its session. -/
theorem serveChecked_step (g : Gate σ) (now : Moment) (fresh id : Uuid)
    (command : Workflow.Command) (s : State σ) :
    (g.serveChecked now fresh (.step id command)).run s =
      match onSession now id (g.stepChecked now id command) s with
      | (.error fault, s) => (.ok (.error fault), s)
      | (.ok (.ok answer), s) => (.ok (.ok answer), s)
      | (.ok (.error panic), s) => (.error panic, s) := by
  have hrun : (g.serveChecked now fresh (.step id command)).run s =
      match onSession now id (g.stepChecked now id command) s with
      | (answer, s) => ExceptT.run (m := StateM (State σ)) (match answer with
          | .error fault => return .error fault
          | .ok (.ok answer) => return .ok answer
          | .ok (.error panic) => throw panic) s := rfl
  rw [hrun]
  generalize onSession now id (g.stepChecked now id command) s = worked
  rcases worked with ⟨fault | panic | answer, s⟩ <;> rfl

/-- A request with checked sums is answered as the other one is, or there is a panic. -/
theorem follows_serveChecked (g : Gate σ) (now : Moment) (fresh : Uuid) (r : Request) :
    Follows (g.serveChecked now fresh r) (g.serve now fresh r) := by
  cases r with
  | step id command =>
    intro s
    rw [serveChecked_step, Gate.serve]
    cases hfind : s.sessions.find? id with
    | none =>
      rw [onSession_none hfind, onSession_none hfind]
      exact .inl rfl
    | some session =>
      rw [onSession_open hfind, onSession_open hfind]
      rcases stepChecked_eq g now id command session.workflow s.world with
        ⟨answer, hanswer, hsame⟩ | ⟨panic, hpanic⟩
      · rw [hsame, hanswer]
        exact .inl rfl
      · rw [hpanic]
        exact .inr ⟨panic, rfl⟩
  | _ => exact .lift _

/-- **With checked sums the answer is the same, or there is a panic.** -/
theorem follows_answerChecked (g : Gate σ) (now : Moment) (fresh : Uuid) (m : Message) :
    Follows (g.answerChecked now fresh m) (g.answer now fresh m) := by
  unfold Gate.answerChecked Gate.answer Message.answeredBy
  split
  · exact .pure _
  · split
    · exact .pure _
    · exact (follows_serveChecked g now fresh _).bind fun _ => .pure _

/-- The sessions that a request may touch. -/
def Request.session? (fresh : Uuid) : Request → Option Uuid
  | .openSession => some fresh
  | .closeSession id | .setScript id _ | .showWorkflow id | .step id _ | .analyzeSession id =>
    some id
  | _ => none

/-- A request touches no session but the one that it names or opens. -/
theorem serve_sessions_ne (g : Gate σ) (now : Moment) (fresh : Uuid) (r : Request)
    {other : Uuid} (h : r.session? fresh ≠ some other) (s : State σ) :
    (g.serve now fresh r s).2.sessions.find? other = s.sessions.find? other := by
  cases r with
  | openSession => exact Sessions.find?_opened_ne _ (fun e => h (by rw [e]; rfl)) now
  | closeSession id => exact Sessions.find?_closed_ne _ (fun e => h (by rw [e]; rfl))
  | setScript id script => exact onSession_ne now (fun e => h (by rw [e]; rfl)) _ s
  | showWorkflow id => exact onSession_ne now (fun e => h (by rw [e]; rfl)) _ s
  | step id command => exact onSession_ne now (fun e => h (by rw [e]; rfl)) _ s
  | analyzeSession id => exact onSession_ne now (fun e => h (by rw [e]; rfl)) _ s
  | _ => rfl

end ScriptGate.Service
