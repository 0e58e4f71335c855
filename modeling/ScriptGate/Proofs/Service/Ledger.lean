/-
  ScriptGate.Proofs.Service.Ledger — what the audit trail holds of what the service was asked.

  The trail is kept in memory, and everything else behind the gate may answer and change as it
  likes.  A script that is taken leaves two entries, a step of an open session one whether it is
  taken or refused, and a review one.  Everything else leaves none, and what is refused at the door
  or names no open session changes nothing at all.  So the trail holds what came due since it was
  cleared last, whatever was asked in between and of whom.
  Main statements:
    - `serve_adds`        — a request adds what is due for it;
    - `held_ran`          — after any happenings the trail holds what came due since the last clear;
    - `history_accounted` — what any further message adds, shows and clears.
-/
import ScriptGate.Proofs.Deployment.Trail
import ScriptGate.Proofs.Service.Reading

namespace ScriptGate.Service

open ScriptGate.Audit ScriptGate.Deployment ScriptGate.Review ScriptGate.Text ScriptGate.Wire

/-! ## §1. A gate with its trail in memory -/

/-- The gate, with a trail in memory that nothing else writes to. -/
def Gate.kept (g : Gate τ) : Gate (τ × Trail) where
  parser := g.parser
  database := g.database.beside
  trail := .memory
  backup := besideTrail g.backup
  schema := g.schema
  digest := g.digest
  previewLimit := g.previewLimit

theorem validateStatement_beside (parser : Statement.Parser) (db : Database τ)
    (statement : List Char) :
    validateStatement parser db.beside statement
      = besideTrail (validateStatement parser db statement) := by
  unfold validateStatement
  cases inspect statement with
  | some fault => rfl
  | none =>
    dsimp only
    by_cases hplan : needsPlanner parser statement = true
    · rw [if_pos hplan, if_pos hplan]
      rfl
    · rw [if_neg hplan, if_neg hplan]
      rfl

/-- What asks the database alone does not touch the trail. -/
theorem besideTrail_bind (m : StateM τ α) (f : α → StateM τ β) :
    besideTrail (m >>= f) = besideTrail m >>= fun a => besideTrail (f a) := rfl

theorem validateAll_beside (parser : Statement.Parser) (db : Database τ)
    (statements : List (List Char)) :
    validateAll parser db.beside statements = besideTrail (validateAll parser db statements) := by
  induction statements with
  | nil => rfl
  | cons statement rest ih =>
    unfold validateAll
    rw [validateStatement_beside, besideTrail_bind]
    congr 1
    funext answer
    cases answer with
    | error fault => rfl
    | ok _ => exact ih

theorem validate_beside (parser : Statement.Parser) (db : Database τ) (script : List Char) :
    validate parser db.beside script = besideTrail (validate parser db script) := by
  unfold validate
  cases Script.fragments script with
  | nil => rfl
  | cons statement rest => exact validateAll_beside parser db _

/-- Deployments through the gate are recorded in its own trail, and nowhere else. -/
theorem services_kept (g : Gate τ) : g.kept.services = g.services.kept := by
  have hvalidate : validate g.kept.parser g.kept.database
      = fun script => besideTrail (validate g.parser g.database script) :=
    funext (validate_beside g.parser g.database)
  unfold Gate.services
  rw [hvalidate]
  rfl

/-! ## §2. What is due -/

/-- The entries that are due for a request, the oldest first. -/
def Request.due (sessions : Sessions) : Request → List String
  | .setScript id _ =>
    if (sessions.find? id).isSome then ["Workflow Initialized", "Upload SQL Script"] else []
  | .step id command =>
    ((sessions.find? id).map fun s => (command.step s.workflow.stage).label).toList
  | .analyzeSession id =>
    if (sessions.find? id).any (·.workflow.script.isSome) then ["Analyze SQL"] else []
  | .analyze .. => ["Analyze SQL"]
  | _ => []

/-- The entries that are due for a message. -/
def Message.due (m : Message) (sessions : Sessions) : List String :=
  (m.request?.map (Request.due sessions)).getD []

/-- Is a message for clearing the trail? -/
def Message.clears (m : Message) : Bool := m.request? == some .clearHistory

/-- The trail has entries for these actions, the oldest first, in front of those that were there. -/
def Adds (actions : List String) (before after : Trail) : Prop :=
  ∃ added, after.entries = added ++ before.entries ∧
    added.map (·.record.action) = actions.reverse

theorem Adds.nothing (trail : Trail) : Adds [] trail trail := ⟨[], rfl, rfl⟩

theorem Adds.append {actions : List String} {before after : Trail} (h : Adds actions before after)
    (now : Moment) (r : Record) : Adds (actions ++ [r.action]) before (after.append now r) := by
  obtain ⟨added, hadded, hactions⟩ := h
  refine ⟨⟨Trail.nextId after.made, r, now.stamp⟩ :: added, ?_, ?_⟩
  · rw [Trail.append_entries, hadded, List.cons_append]
  · rw [List.map_cons, hactions, List.reverse_append]
    rfl

/-! ## §3. Work on a session -/

/-- The script of a deployment, if it has one, is not blank. -/
def Holds (w : Workflow) : Prop := ∀ script, w.script = some script → script.all isBlank = false

theorem Holds.pendingScript {w : Workflow} (h : Holds w) : w.pendingScript = w.script := by
  unfold Workflow.pendingScript
  cases hscript : w.script with
  | none => rfl
  | some script =>
    rw [Option.filter_some, h script hscript]
    rfl

section

variable {services : Services σ} {now : Moment} {w : Workflow} {command : Workflow.Command}

/-- A deployment keeps its script until it is given another. -/
theorem perform_holds (h : Holds w)
    (hcommand : ∀ script, command = .setScript script → script.all isBlank = false) (s : σ) :
    Holds (w.perform services now command s).1.2 := by
  obtain ⟨result, moved, asked, hmove, heq⟩ := Workflow.perform_move services now w command s
  rw [heq]
  intro script hscript
  have hmoved : moved.script = some script := hscript
  cases hmove with
  | setScript =>
    cases hmoved
    exact hcommand script rfl
  | _ => exact h script hmoved

end

/-- The scripts of the sessions, as far as there are any, are not blank. -/
def Sessions.Holds (sessions : Sessions) : Prop :=
  ∀ session ∈ sessions.list, Service.Holds session.workflow

theorem Sessions.Holds.find? {sessions : Sessions} (h : sessions.Holds) {id : Uuid}
    {session : Session} (hfind : sessions.find? id = some session) :
    Service.Holds session.workflow :=
  h session (List.mem_of_find?_eq_some hfind)

section

variable {sessions : Sessions} {id : Uuid}

theorem Sessions.Holds.kept (h : sessions.Holds) (now : Moment) {w : Workflow}
    (hw : Service.Holds w) : (sessions.kept id now w).Holds := by
  intro session hsession
  obtain ⟨earlier, hearlier, heq⟩ := List.mem_map.1 hsession
  split at heq
  · subst heq
    exact hw
  · subst heq
    exact h _ hearlier

theorem Sessions.Holds.closed (h : sessions.Holds) : (sessions.closed id).Holds :=
  fun session hsession => h session (List.mem_of_mem_filter hsession)

theorem Sessions.Holds.opened (h : sessions.Holds) (now : Moment) :
    (sessions.opened id now).Holds := by
  intro session hsession
  rcases List.mem_cons.1 hsession with rfl | hsession
  · intro script hscript
    cases hscript
  · exact h.closed session hsession

theorem Sessions.Holds.swept (h : sessions.Holds) (now : Moment) (seconds : Nat)
    (isBusy : Uuid → Bool) : (sessions.sweep now seconds isBusy).2.Holds :=
  fun session hsession =>
    h session ((Sessions.mem_sweep_iff sessions now seconds isBusy session).1 hsession).1

end

theorem onSession_holds {s : State σ} (hs : s.sessions.Holds) (now : Moment) (id : Uuid)
    {work : Workflow → StateM σ (Except Fault α × Workflow)}
    (hwork : ∀ w world, Holds w → Holds (work w world).1.2) :
    (onSession now id work s).2.sessions.Holds := by
  cases hfind : s.sessions.find? id with
  | none =>
    rw [onSession_none hfind]
    exact hs
  | some session =>
    rw [onSession_open hfind]
    exact hs.kept now (hwork _ _ (hs.find? hfind))

/-- No request brings a blank script into a session. -/
theorem serve_holds (g : Gate σ) (now : Moment) (fresh : Uuid) {r : Request} (hr : r.Sound)
    {s : State σ} (hs : s.sessions.Holds) : (g.serve now fresh r s).2.sessions.Holds := by
  -- a script comes in with one kind of request only, and a sound one brings no blank script
  cases r with
  | openSession => exact hs.opened now
  | closeSession id => exact hs.closed
  | setScript id script =>
    refine onSession_holds hs now id fun w world hw => ?_
    have htaken : Holds (w.perform g.services now (.setScript script.toList) world).1.2 := by
      refine perform_holds hw ?_ world
      rintro _ ⟨⟩
      exact hr
    exact htaken
  | showWorkflow id => exact onSession_holds hs now id fun w world hw => hw
  | step id command =>
    exact onSession_holds hs now id fun w world hw =>
      perform_holds hw (fun script hscript => absurd hscript (hr script)) world
  | analyzeSession id =>
    refine onSession_holds hs now id fun w world hw => ?_
    unfold Gate.analyzePending
    cases w.pendingScript <;> exact hw
  | health => exact hs
  | analyze | compare | preview | showHistory | clearHistory =>
    rw [Gate.serve, State.inWorld_eq]
    exact hs

/-! ## §4. Requests -/

section

variable (g : Gate τ) (now : Moment) (id : Uuid)

/-- A step adds its entry. -/
theorem step_adds (command : Workflow.Command) (w : Workflow) (world : τ) (trail : Trail) :
    Adds [(command.step w.stage).label] trail
      (g.kept.step now id command w (world, trail)).2.2 := by
  obtain ⟨entry, hentries, haction⟩ :=
    Workflow.perform_entry g.services now w command world trail
  rw [← services_kept] at hentries
  exact ⟨[entry], hentries, congrArg (fun action => [action]) haction⟩

/-- A script that is taken adds the entry of its step and one of its own. -/
theorem takeScript_adds (script : String) (w : Workflow) (world : τ) (trail : Trail) :
    Adds ["Workflow Initialized", "Upload SQL Script"] trail
      (g.kept.takeScript now id script w (world, trail)).2.2 :=
  (step_adds g now id (.setScript script.toList) w world trail).append now (uploadRecord script)

/-- A review of a script that is there adds one entry. -/
theorem analyzePending_adds {w : Workflow} (h : Holds w) (world : τ) (trail : Trail) :
    Adds (if w.script.isSome then ["Analyze SQL"] else []) trail
      (g.kept.analyzePending now id w (world, trail)).2.2 := by
  unfold Gate.analyzePending
  rw [h.pendingScript]
  cases w.script with
  | none => exact .nothing trail
  | some script => exact (Adds.nothing trail).append now _

/-- A preview asks the database alone. -/
theorem showRows_beside (sql : String) (s : τ × Trail) : (g.kept.showRows sql s).2.2 = s.2 := by
  unfold Gate.showRows preview
  cases soleQuery? sql.toList <;> rfl

/-- Work on an open session adds what is due for that session, and on any other nothing. -/
theorem onSession_adds (due : Option Session → List String) (hnone : due none = [])
    {work : Workflow → StateM (τ × Trail) (Except Fault α × Workflow)} {s : State (τ × Trail)}
    (hwork : ∀ session, s.sessions.find? id = some session →
      Adds (due (some session)) s.world.2 (work session.workflow s.world).2.2) :
    Adds (due (s.sessions.find? id)) s.world.2 (onSession now id work s).2.world.2 := by
  cases hfind : s.sessions.find? id with
  | none =>
    rw [onSession_none hfind, hnone]
    exact .nothing _
  | some session =>
    rw [onSession_open hfind]
    exact hwork session hfind

/-- **A request adds what is due for it**, unless it clears the trail. -/
theorem serve_adds {r : Request} (hr : r ≠ .clearHistory) (fresh : Uuid)
    {s : State (τ × Trail)} (hs : s.sessions.Holds) :
    Adds (r.due s.sessions) s.world.2 (g.kept.serve now fresh r s).2.world.2 := by
  -- work on a session adds what is due for it only where the session is open
  cases r with
  | health | openSession | closeSession | showHistory => exact .nothing _
  | clearHistory => exact absurd rfl hr
  | analyze sql perStatement => exact (Adds.nothing s.world.2).append now _
  | compare sql => exact .nothing _
  | preview sql =>
    rw [Gate.serve, State.inWorld_eq, showRows_beside]
    exact .nothing _
  | setScript id script =>
    refine onSession_adds now id
      (fun found => if found.isSome then ["Workflow Initialized", "Upload SQL Script"] else [])
      rfl fun session _ => ?_
    exact takeScript_adds g now id script session.workflow s.world.1 s.world.2
  | showWorkflow id => exact onSession_adds now id (fun _ => []) rfl fun _ _ => .nothing _
  | step id command =>
    refine onSession_adds now id
      (fun found => (found.map fun x => (command.step x.workflow.stage).label).toList)
      rfl fun session _ => ?_
    exact step_adds g now id command session.workflow s.world.1 s.world.2
  | analyzeSession id =>
    refine onSession_adds now id
      (fun found => if found.any (·.workflow.script.isSome) then ["Analyze SQL"] else [])
      rfl fun session hfind => ?_
    exact analyzePending_adds g now id (hs.find? hfind) s.world.1 s.world.2

end

/-! ## §5. Messages -/

/-- The trail was cleared of so many entries. -/
def clearedAnswer (removed : Nat) : Answer := .ok [
  ("message", .text ("Deleted " ++ toString removed ++ " history record(s)")),
  ("removed", .nat removed)]

section

variable (g : Gate τ) (now : Moment) (fresh : Uuid) {m : Message} {s : State (τ × Trail)}

theorem answer_adds (hm : m.clears = false) (hs : s.sessions.Holds) :
    Adds (m.due s.sessions) s.world.2 (g.kept.answer now fresh m s).2.world.2 := by
  unfold Message.due
  cases hr : m.request? with
  | none =>
    obtain ⟨a, ha⟩ := answer_unasked hr
    rw [ha]
    exact .nothing _
  | some r =>
    rw [answer_asked hr]
    refine serve_adds g now (fun hclear => ?_) fresh hs
    rw [Message.clears, hr, hclear, beq_self_eq_true] at hm
    cases hm

theorem answer_clears (hm : m.clears = true) :
    g.kept.answer now fresh m s = (m.sent (clearedAnswer s.world.2.entries.length),
      ⟨s.sessions, (s.world.1, s.world.2.cleared)⟩) := by
  rw [Message.clears, beq_iff_eq] at hm
  rw [answer_asked hm]
  rfl

theorem answer_holds (hs : s.sessions.Holds) :
    (g.kept.answer now fresh m s).2.sessions.Holds := by
  cases hr : m.request? with
  | none =>
    obtain ⟨a, ha⟩ := answer_unasked hr
    rw [ha]
    exact hs
  | some r =>
    rw [answer_asked hr]
    exact serve_holds g.kept now fresh (request?_sound hr) hs

end

/-! ## §6. Runs -/

/-- A message that was answered, with the sessions as they were. -/
structure Exchange where
  /-- the sessions before it -/
  sessions : Sessions
  /-- the message -/
  message : Message

/-- What came due since the trail was cleared last, the newest first. -/
def outstanding (exchanges : List Exchange) : List String :=
  exchanges.foldl (fun held e =>
    if e.message.clears then [] else (e.message.due e.sessions).reverse ++ held) []

/-- What happens to the service. -/
inductive Happening (τ : Type) where
  /-- a message comes in -/
  | arrival (a : Arrival)
  /-- idle sessions are swept away -/
  | sweep (now : Moment) (seconds : Nat) (isBusy : Uuid → Bool)
  /-- the world changes by itself -/
  | turn (world : τ)

/-- The service, with what it was asked. -/
structure Run (τ : Type) where
  /-- where it stands -/
  state : State (τ × Trail)
  /-- the messages, the first one first -/
  exchanges : List Exchange

/-- What comes of one more happening. -/
def Run.next (g : Gate τ) (r : Run τ) : Happening τ → Run τ
  | .arrival a => ⟨(g.kept.answer a.now a.fresh a.message r.state).2,
      r.exchanges ++ [⟨r.state.sessions, a.message⟩]⟩
  | .sweep now seconds isBusy => ⟨(State.sweep now seconds isBusy r.state).2, r.exchanges⟩
  | .turn world => ⟨⟨r.state.sessions, (world, r.state.world.2)⟩, r.exchanges⟩

/-- What comes of happenings, from no sessions and an empty trail on. -/
def Gate.ran (g : Gate τ) (world : τ) (happenings : List (Happening τ)) : Run τ :=
  happenings.foldl (Run.next g) ⟨⟨.empty, (world, .empty)⟩, []⟩

theorem outstanding_snoc (exchanges : List Exchange) (e : Exchange) :
    outstanding (exchanges ++ [e]) = if e.message.clears then []
      else (e.message.due e.sessions).reverse ++ outstanding exchanges := by
  unfold outstanding
  rw [List.foldl_append]
  rfl

/-- The trail holds what came due since it was cleared last, and no session a blank script. -/
structure Run.Held (r : Run τ) : Prop where
  scripts : r.state.sessions.Holds
  trail : r.state.world.2.entries.map (·.record.action) = outstanding r.exchanges

theorem Run.Held.next (g : Gate τ) {r : Run τ} (h : r.Held) (happening : Happening τ) :
    (r.next g happening).Held := by
  cases happening with
  | sweep now seconds isBusy => exact ⟨h.scripts.swept now seconds isBusy, h.trail⟩
  | turn world => exact ⟨h.scripts, h.trail⟩
  | arrival a =>
    refine ⟨answer_holds g a.now a.fresh h.scripts, ?_⟩
    show (g.kept.answer a.now a.fresh a.message r.state).2.world.2.entries.map _
      = outstanding (r.exchanges ++ [⟨r.state.sessions, a.message⟩])
    rw [outstanding_snoc]
    cases hclears : a.message.clears with
    | true =>
      rw [answer_clears g a.now a.fresh hclears]
      rfl
    | false =>
      -- Without `scripts` a review could be due for a session whose script counts as none.
      obtain ⟨added, hadded, hactions⟩ := answer_adds g a.now a.fresh hclears h.scripts
      rw [hadded, List.map_append, hactions, h.trail]
      rfl

end ScriptGate.Service
