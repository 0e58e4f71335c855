/-
  ScriptGate.Proofs.Service.Isolation — sessions that do not interfere.

  What the requests of one session are answered depends on nothing but these requests, as long as
  the database and the backup answer by what they are asked alone.  The requests of other sessions,
  reviews, comparisons and previews, and the audit trail that all of them share have no part in
  it; times differ, and are left out of the answers.
  Main statements:
    - `addresses_iff`      — which messages work on a session;
    - `answer_addressed`   — such a message is answered the same where the session is the same;
    - `answer_unaddressed` — any other leaves the session as it is;
    - `sessions_isolated`  — so two runs with the same messages to a session have the same answers.
-/
import ScriptGate.Proofs.Deployment.Clock
import ScriptGate.Proofs.Service.Reading

namespace ScriptGate.Wire

/-- With another value in a field of an object. -/
def Json.revise (name : String) (f : Json → Json) : Json → Json
  | .object fields =>
    .object (fields.map fun field => if field.1 == name then (field.1, f field.2) else field)
  | other => other

end ScriptGate.Wire

namespace ScriptGate.Service

open ScriptGate.Deployment ScriptGate.Review ScriptGate.Wire

/-! ## §1. Answers without their times -/

/-- A line of the log without its time. -/
def untimedLine : Json → Json
  | .text line => .text (String.ofList (line.toList.drop timeWidth))
  | other => other

/-- A log without its times. -/
def untimedLog : Json → Json
  | .array lines => .array (lines.map untimedLine)
  | other => other

/-- A report without its date. -/
def undatedReport (report : Json) : Json := report.revise "deployedAt" fun _ => .null

/-- A deployment without its times: the lines of its log and the date of its report. -/
def untimedWorkflow (workflow : Json) : Json :=
  (workflow.revise "transitions" untimedLog).revise "report" undatedReport

/-- An answer without the times of the deployment in it. -/
def Answer.untimed (a : Answer) : Answer :=
  ⟨a.status, (a.body.revise "workflow" untimedWorkflow).revise "data" untimedWorkflow⟩

theorem untimed_sent (m : Message) (a : Answer) : (m.sent a).untimed = m.sent a.untimed := by
  unfold Message.sent
  split <;> rfl

theorem untimedLog_texts (lines : List LogLine) :
    untimedLog (.texts (lines.map LogLine.text))
      = .texts ((lines.map LogLine.untimed).map String.ofList) := by
  unfold untimedLog Json.texts
  simp only [List.map_map]
  rfl

theorem undatedReport_eq (reports : Option Report) :
    reports.map (fun r => undatedReport (reportJson r))
      = (reports.map Report.undated).map fun r => undatedReport (reportJson r) := by
  rw [Option.map_map]
  rfl

/-- What is left of a deployment without its times, field by field. -/
theorem untimedWorkflow_eq (id : Uuid) (w : Workflow) :
    let lines := (w.report.map Report.schemaImpact).getD []
    untimedWorkflow (workflowJson id w)
      = .object ([("sessionId", .text id.text), ("state", .text w.stage.name)] ++
          Json.field? "script" (w.script.map fun s => .text (String.ofList s)) ++
          [("transitions", untimedLog (logJson w))] ++
          Json.field? "report" (w.report.map fun r => undatedReport (reportJson r)) ++
          if lines.isEmpty then [] else [("schemaImpact", .texts lines)]) := by
  obtain ⟨script, stage, log, report⟩ := w
  cases report with
  | none => cases script <;> rfl
  | some report =>
    simp only [workflowJson, Option.map_some, Option.getD_some]
    cases report.schemaImpact.isEmpty <;> cases script <;> rfl

/-- Twins look the same but for their times. -/
theorem untimed_workflowJson {w w' : Workflow} (h : Twins w w') (id : Uuid) :
    untimedWorkflow (workflowJson id w) = untimedWorkflow (workflowJson id w') := by
  have hlines (w : Workflow) : w.report.map Report.schemaImpact
      = (w.report.map Report.undated).map Report.schemaImpact := by
    rw [Option.map_map]
    rfl
  have hlog (w : Workflow) : untimedLog (logJson w)
      = .texts ((w.log.map LogLine.untimed).map String.ofList) := untimedLog_texts w.log
  rw [untimedWorkflow_eq, untimedWorkflow_eq, hlines, hlines w', hlog, hlog, undatedReport_eq,
    undatedReport_eq w'.report, h.script, h.stage, h.log, h.report]

/-! ## §2. Steady gates -/

/-- The database and the backup answer by what they are asked alone. -/
structure Gate.Steady (g : Gate σ) : Prop where
  ask : ∀ call, Agree Eq (g.database.ask call) (g.database.ask call)
  backup : Agree Eq g.backup g.backup

section

variable {g : Gate σ} (hg : g.Steady)
include hg

theorem validateStatement_agree (statement : List Char) :
    Agree Eq (validateStatement g.parser g.database statement)
      (validateStatement g.parser g.database statement) := by
  unfold validateStatement
  cases inspect statement with
  | some fault => exact .pure rfl
  | none =>
    dsimp only
    by_cases hplan : needsPlanner g.parser statement = true
    · rw [if_pos hplan]
      refine Agree.bind (hg.ask (.execute ("EXPLAIN ".toList ++ statement))) ?_
      rintro answer _ rfl
      exact .pure rfl
    · rw [if_neg hplan]
      exact .pure rfl

theorem validateAll_agree (statements : List (List Char)) :
    Agree Eq (validateAll g.parser g.database statements)
      (validateAll g.parser g.database statements) := by
  induction statements with
  | nil => exact .pure rfl
  | cons statement rest ih =>
    unfold validateAll
    refine (validateStatement_agree hg statement).bind ?_
    rintro answer _ rfl
    cases answer with
    | error fault => exact .pure rfl
    | ok _ => exact ih

/-- So does everything that deployments through the gate rely on. -/
theorem services_steady : g.services.Steady where
  validate script := by
    show Agree Eq (validate g.parser g.database script) (validate g.parser g.database script)
    unfold validate
    cases Script.fragments script with
    | nil => exact .pure rfl
    | cons statement rest => exact validateAll_agree hg _
  backup := hg.backup
  ask := hg.ask

end

/-! ## §3. Messages to a session -/

/-- Is the message about a session: does its path name it, or does it open it? -/
def Arrival.addresses (id : Uuid) (a : Arrival) : Bool :=
  match Endpoint.ofPath? a.message.path with
  | some .sessions => a.fresh == id
  | some (.session given) | some (.script given) | some (.workflow given) | some (.step given _)
  | some (.sessionAnalysis given) => (sessionOf given).toOption == some id
  | _ => false

theorem toOption_ok {x : Reading Uuid} {other : Uuid} (h : x = .ok other) (id : Uuid) :
    (x.toOption == some id) = true ↔ some other = some id := by
  rw [h, beq_iff_eq]
  rfl

/-- **A message is about the session that its request names or opens.** -/
theorem addresses_iff {a : Arrival} {r : Request} (hr : a.message.request? = some r) (id : Uuid) :
    a.addresses id = true ↔ r.session? a.fresh = some id := by
  obtain ⟨e, he, hasks⟩ := request?_asks hr
  unfold Arrival.addresses
  rw [he]
  -- an endpoint can be asked for one kind of request only, but for those without a session
  cases e with
  | health | analysis | compare | preview | history =>
    cases r <;> first | exact hasks.elim | exact iff_of_false Bool.false_ne_true nofun
  | sessions =>
    cases r with
    | openSession =>
      show (a.fresh == id) = true ↔ some a.fresh = some id
      rw [beq_iff_eq, Option.some.injEq]
    | _ => exact hasks.elim
  | session given =>
    cases r with
    | closeSession other => exact toOption_ok hasks id
    | _ => exact hasks.elim
  | script given =>
    cases r with
    | setScript other text => exact toOption_ok hasks.1 id
    | _ => exact hasks.elim
  | workflow given =>
    cases r with
    | showWorkflow other => exact toOption_ok hasks id
    | _ => exact hasks.elim
  | step given action =>
    cases r with
    | step other command => exact toOption_ok hasks.1 id
    | _ => exact hasks.elim
  | sessionAnalysis given =>
    cases r with
    | analyzeSession other => exact toOption_ok hasks id
    | _ => exact hasks.elim

/-- A message about anything else leaves the session as it is. -/
theorem answer_unaddressed (g : Gate σ) {a : Arrival} {id : Uuid} (h : a.addresses id = false)
    (s : State σ) :
    (g.answer a.now a.fresh a.message s).2.sessions.find? id = s.sessions.find? id := by
  cases hr : a.message.request? with
  | none =>
    obtain ⟨answer, hanswer⟩ := answer_unasked hr
    rw [hanswer]
  | some r =>
    rw [answer_asked hr]
    refine serve_sessions_ne g a.now a.fresh r (fun hsession => ?_) s
    rw [(addresses_iff hr id).2 hsession] at h
    cases h

/-! ## §4. One session at two times -/

/-- The same is told, but for the times. -/
def Told (x y : Except Fault Answer) : Prop :=
  (Answer.ofResult x).untimed = (Answer.ofResult y).untimed

/-- The same is told, and the deployments are twins. -/
def TellsTwins (r r' : Except Fault Answer × Workflow) : Prop := Told r.1 r'.1 ∧ Twins r.2 r'.2

/-- In both states the session is open with twin deployments, or it is not open. -/
def Meets (id : Uuid) (s t : State σ) : Prop :=
  Option.Rel (fun x y => Twins x.workflow y.workflow) (s.sessions.find? id) (t.sessions.find? id)

theorem untimed_stepAnswer (id : Uuid) (o : Outcome) (w : Workflow) :
    (stepAnswer id o w).untimed = ⟨statusOfOutcome o,
      .object (outcomeFields o ++ [("workflow", untimedWorkflow (workflowJson id w))])⟩ := by
  obtain ⟨step, success, status, stage, message, refused⟩ := o
  cases refused <;> rfl

theorem untimed_workflowAnswer (id : Uuid) (w : Workflow) :
    (workflowAnswer id w).untimed = .ok [("message", .text ("Workflow is " ++ w.stage.name)),
      ("data", untimedWorkflow (workflowJson id w))] := rfl

section

variable {g : Gate σ} {now now' : Moment} {id : Uuid} {w w' : Workflow}

theorem step_agree (hg : g.Steady) (hnow : now.Legible) (hnow' : now'.Legible) (h : Twins w w')
    (command : Workflow.Command) :
    Agree TellsTwins (g.step now id command w) (g.step now' id command w') := by
  refine (Workflow.perform_agree (services_steady hg) hnow hnow' h command).bind ?_
  rintro ⟨outcome, moved⟩ ⟨_, moved'⟩ ⟨rfl, hmoved⟩
  refine .pure ⟨?_, hmoved⟩
  show (stepAnswer id outcome moved).untimed = (stepAnswer id outcome moved').untimed
  rw [untimed_stepAnswer, untimed_stepAnswer, untimed_workflowJson hmoved]

theorem takeScript_agree (hg : g.Steady) (hnow : now.Legible) (hnow' : now'.Legible)
    (h : Twins w w') (script : String) :
    Agree TellsTwins (g.takeScript now id script w) (g.takeScript now' id script w') := by
  refine (step_agree hg hnow hnow' h (.setScript script.toList)).bind fun result result' hr => ?_
  exact Agree.skip (.pure hr)

theorem analyzePending_agree (h : Twins w w') :
    Agree TellsTwins (g.analyzePending now id w) (g.analyzePending now' id w') := by
  unfold Gate.analyzePending
  rw [h.pendingScript]
  cases w'.pendingScript with
  | none => exact .pure ⟨rfl, h⟩
  | some script => exact Agree.skip (.pure ⟨rfl, h⟩)

/-- Work that tells the same of twins keeps them twins. -/
theorem onSession_agree {s t : State σ} (h : Meets id s t)
    {work work' : Workflow → StateM σ (Except Fault Answer × Workflow)}
    (hwork : ∀ w w', Twins w w' → Agree TellsTwins (work w) (work' w')) :
    Told (onSession now id work s).1 (onSession now' id work' t).1 ∧
      Meets id (onSession now id work s).2 (onSession now' id work' t).2 := by
  unfold Meets at h
  -- the session is open in both states or in none
  cases hs : s.sessions.find? id with
  | none =>
    cases ht : t.sessions.find? id with
    | none =>
      rw [onSession_none hs, onSession_none ht]
      exact ⟨rfl, by rw [Meets, hs, ht]; exact .none⟩
    | some y =>
      rw [hs, ht] at h
      cases h
  | some x =>
    cases ht : t.sessions.find? id with
    | none =>
      rw [hs, ht] at h
      cases h
    | some y =>
      rw [hs, ht] at h
      cases h with
      | some htwins =>
        obtain ⟨htold, hmoved⟩ := hwork _ _ htwins s.world t.world
        rw [onSession_open hs, onSession_open ht]
        refine ⟨htold, ?_⟩
        rw [Meets, Sessions.find?_kept hs, Sessions.find?_kept ht]
        exact .some hmoved

/-- **A request of the session is answered the same where the session is the same.** -/
theorem serve_agree (hg : g.Steady) (hnow : now.Legible) (hnow' : now'.Legible)
    {fresh fresh' : Uuid} {r : Request} (hr : r.session? fresh = some id)
    (hr' : r.session? fresh' = some id) {s t : State σ} (h : Meets id s t) :
    Told (g.serve now fresh r s).1 (g.serve now' fresh' r t).1 ∧
      Meets id (g.serve now fresh r s).2 (g.serve now' fresh' r t).2 := by
  cases r with
  | openSession =>
    cases hr
    cases hr'
    refine ⟨rfl, ?_⟩
    -- what was open under the identifier before does not survive
    show Option.Rel _ ((s.sessions.opened id now).find? id) ((t.sessions.opened id now').find? id)
    rw [Sessions.find?_opened, Sessions.find?_opened]
    exact .some (.refl _)
  | closeSession other =>
    cases hr
    have hopen : (s.sessions.find? id).isSome = (t.sessions.find? id).isSome := by
      unfold Meets at h
      generalize s.sessions.find? id = x at h ⊢
      generalize t.sessions.find? id = y at h ⊢
      cases h <;> rfl
    have hserve (now : Moment) (fresh : Uuid) (s : State σ) : g.serve now fresh (.closeSession id) s
        = (if (s.sessions.find? id).isSome then .ok (closedAnswer id) else .error (noSession id),
          { s with sessions := s.sessions.closed id }) := rfl
    rw [hserve, hserve, hopen]
    refine ⟨rfl, ?_⟩
    rw [Meets, Sessions.find?_closed, Sessions.find?_closed]
    exact .none
  | setScript other script =>
    cases hr
    exact onSession_agree h fun w w' hw => takeScript_agree hg hnow hnow' hw script
  | showWorkflow other =>
    cases hr
    refine onSession_agree h fun w w' hw => .pure ⟨?_, hw⟩
    show (workflowAnswer id w).untimed = (workflowAnswer id w').untimed
    rw [untimed_workflowAnswer, untimed_workflowAnswer, untimed_workflowJson hw, hw.stage]
  | step other command =>
    cases hr
    exact onSession_agree h fun w w' hw => step_agree hg hnow hnow' hw command
  | analyzeSession other =>
    cases hr
    exact onSession_agree h fun w w' hw => analyzePending_agree hw
  | _ => cases hr

/-- A message about the session is answered the same where the session is the same. -/
theorem answer_addressed (hg : g.Steady) {a b : Arrival} (ha : a.now.Legible) (hb : b.now.Legible)
    (hmessage : a.message = b.message) (ha' : a.addresses id = true)
    (hb' : b.addresses id = true) {s t : State σ} (h : Meets id s t) :
    (g.answer a.now a.fresh a.message s).1.untimed
        = (g.answer b.now b.fresh b.message t).1.untimed ∧
      Meets id (g.answer a.now a.fresh a.message s).2 (g.answer b.now b.fresh b.message t).2 := by
  rw [← hmessage]
  cases hr : a.message.request? with
  | none =>
    obtain ⟨answer, hanswer⟩ := answer_unasked hr
    rw [hanswer, hanswer]
    exact ⟨rfl, h⟩
  | some r =>
    have hnamed := (addresses_iff hr id).1 ha'
    have hnamed' := (addresses_iff (hmessage ▸ hr) id).1 hb'
    obtain ⟨htold, hmeets⟩ := serve_agree hg ha hb hnamed hnamed' h
    rw [answer_asked hr, answer_asked hr]
    refine ⟨?_, hmeets⟩
    rw [untimed_sent, untimed_sent]
    exact congrArg a.message.sent htold

end

/-! ## §5. Two runs -/

/-- What the messages about a session are answered when all messages are answered in order. -/
def Gate.answersTo (g : Gate σ) (id : Uuid) : List Arrival → State σ → List Answer
  | [], _ => []
  | a :: rest, s =>
    let (answer, s') := g.answer a.now a.fresh a.message s
    if a.addresses id then answer :: g.answersTo id rest s' else g.answersTo id rest s'

theorem answersTo_addressed {id : Uuid} {a : Arrival} (h : a.addresses id = true) (g : Gate σ)
    (rest : List Arrival) (s : State σ) :
    g.answersTo id (a :: rest) s = (g.answer a.now a.fresh a.message s).1 ::
      g.answersTo id rest (g.answer a.now a.fresh a.message s).2 := by
  simp only [Gate.answersTo, h, if_true]
  rfl

theorem answersTo_unaddressed {id : Uuid} {a : Arrival} (h : a.addresses id = false) (g : Gate σ)
    (rest : List Arrival) (s : State σ) :
    g.answersTo id (a :: rest) s
      = g.answersTo id rest (g.answer a.now a.fresh a.message s).2 := by
  simp only [Gate.answersTo, h, Bool.false_eq_true, if_false]
  rfl

section

variable {g : Gate σ} (hg : g.Steady) (id : Uuid)
include hg

/-- The messages about anything else may be left out. -/
theorem answersTo_filter {arrivals : List Arrival} (hclock : ∀ a ∈ arrivals, a.now.Legible) :
    ∀ {s t : State σ}, Meets id s t →
      (g.answersTo id arrivals s).map Answer.untimed
        = (g.answersTo id (arrivals.filter (·.addresses id)) t).map Answer.untimed := by
  -- The states drift apart in the worlds and the other sessions; only `Meets` survives a step.
  induction arrivals with
  | nil => exact fun _ => rfl
  | cons a rest ih =>
    intro s t h
    have hrest : ∀ x ∈ rest, x.now.Legible := fun x hx => hclock x (List.mem_cons_of_mem _ hx)
    have ha := hclock a List.mem_cons_self
    cases haddressed : a.addresses id with
    | true =>
      obtain ⟨hanswer, hmeets⟩ := answer_addressed hg ha ha rfl haddressed haddressed h
      rw [List.filter_cons_of_pos haddressed, answersTo_addressed haddressed,
        answersTo_addressed haddressed, List.map_cons, List.map_cons, hanswer, ih hrest hmeets]
    | false =>
      rw [List.filter_cons_of_neg (by rw [haddressed]; exact Bool.false_ne_true),
        answersTo_unaddressed haddressed]
      refine ih hrest ?_
      rw [Meets, answer_unaddressed g haddressed]
      exact h

/-- The same messages about the session are answered the same, whatever the clocks show. -/
theorem answersTo_aligned {xs : List Arrival} :
    ∀ {ys : List Arrival}, xs.map Arrival.message = ys.map Arrival.message →
      (∀ a ∈ xs, a.now.Legible ∧ a.addresses id = true) →
      (∀ a ∈ ys, a.now.Legible ∧ a.addresses id = true) →
      ∀ {s t : State σ}, Meets id s t →
        (g.answersTo id xs s).map Answer.untimed = (g.answersTo id ys t).map Answer.untimed := by
  -- one message after the other, from states that agree on the session
  induction xs with
  | nil =>
    intro ys hmessages _ _ s t _
    rw [List.map_eq_nil_iff.1 hmessages.symm]
    rfl
  | cons a rest ih =>
    intro ys hmessages hx hy s t h
    obtain ⟨b, others, rfl, hmessage, hothers⟩ := List.map_eq_cons_iff.1 hmessages.symm
    obtain ⟨ha, ha'⟩ := hx a List.mem_cons_self
    obtain ⟨hb, hb'⟩ := hy b List.mem_cons_self
    obtain ⟨hanswer, hmeets⟩ := answer_addressed hg ha hb hmessage.symm ha' hb' h
    rw [answersTo_addressed ha', answersTo_addressed hb', List.map_cons, List.map_cons, hanswer,
      ih hothers.symm (fun x hx' => hx x (List.mem_cons_of_mem _ hx'))
        (fun x hy' => hy x (List.mem_cons_of_mem _ hy')) hmeets]

end

/-- **Sessions do not interfere.**  Two runs of the service, from no sessions on, in any two worlds
    and at any times: where the messages about a session are the same in the same order, so are
    their answers, but for the times in them, whatever else is asked in between. -/
theorem sessions_isolated {g : Gate σ} (hg : g.Steady) (id : Uuid) {xs ys : List Arrival}
    (hx : ∀ a ∈ xs, a.now.Legible) (hy : ∀ a ∈ ys, a.now.Legible)
    (hsame : (xs.filter (·.addresses id)).map Arrival.message
      = (ys.filter (·.addresses id)).map Arrival.message) (world world' : σ) :
    (g.answersTo id xs ⟨.empty, world⟩).map Answer.untimed
      = (g.answersTo id ys ⟨.empty, world'⟩).map Answer.untimed := by
  have hempty (u v : σ) : Meets id (⟨.empty, u⟩ : State σ) ⟨.empty, v⟩ := .none
  have hfiltered {arrivals : List Arrival} (h : ∀ a ∈ arrivals, a.now.Legible) :
      ∀ a ∈ arrivals.filter (·.addresses id), a.now.Legible ∧ a.addresses id = true := by
    intro a ha
    rw [List.mem_filter] at ha
    exact ⟨h a ha.1, ha.2⟩
  calc (g.answersTo id xs ⟨.empty, world⟩).map Answer.untimed
      = (g.answersTo id (xs.filter (·.addresses id)) ⟨.empty, world⟩).map Answer.untimed :=
        answersTo_filter hg id hx (hempty _ _)
    _ = (g.answersTo id (ys.filter (·.addresses id)) ⟨.empty, world'⟩).map Answer.untimed :=
        answersTo_aligned hg id hsame (hfiltered hx) (hfiltered hy) (hempty _ _)
    _ = (g.answersTo id ys ⟨.empty, world'⟩).map Answer.untimed :=
        (answersTo_filter hg id hy (hempty _ _)).symm

/-- A gate whose database and backup always answer the same. -/
def evenGate : Gate Unit where
  parser := fun _ => none
  database := ⟨fun
    | .columns _ => return .ok []
    | .execute _ => return .ok ()
    | .counted _ => return .ok (1 : UInt64)
    | .query .. => return .ok []⟩
  trail := .broken (.internal "no trail")
  backup := return .ok "backup.sql"
  schema := "public"
  digest := id
  previewLimit := 100

theorem evenGate_steady : evenGate.Steady where
  ask call := by cases call <;> exact .pure rfl
  backup := .pure rfl

/-- A message at an hour, with the identifier of a session that it may open. -/
def sentAt (hour : String) (fresh : BitVec 128) (method target : String) (body : Option Json) :
    Arrival := ⟨⟨0, "", hour ++ ":00:00"⟩, ⟨fresh⟩, ⟨method, target, body⟩⟩

/-- A session that has the service for itself. -/
def alone : List Arrival := [
  sentAt "10" 1 "POST" "/api/sessions" none,
  sentAt "10" 2 "PUT" "/api/sessions/00000000000000000000000000000001/script"
    (some (.object [("script", .text "DELETE FROM t")]))]

/-- The same session later, between another one and a review. -/
def crowded : List Arrival := [
  sentAt "11" 2 "POST" "/api/sessions" none,
  sentAt "11" 1 "POST" "/api/sessions" none,
  sentAt "11" 2 "PUT" "/api/sessions/00000000000000000000000000000002/script"
    (some (.object [("script", .text "DROP TABLE t")])),
  sentAt "11" 2 "POST" "/api/analysis" (some (.object [("sql", .text "SELECT 1")])),
  sentAt "11" 2 "PUT" "/api/sessions/00000000000000000000000000000001/script"
    (some (.object [("script", .text "DELETE FROM t")]))]

/-- It is told the same. -/
theorem neighbours_unnoticed :
    evenGate.Steady ∧ (∀ a ∈ alone, a.now.Legible) ∧ (∀ a ∈ crowded, a.now.Legible) ∧
      alone.filter (·.addresses ⟨1⟩) = alone ∧
      (crowded.filter (·.addresses ⟨1⟩)).map Arrival.message = alone.map Arrival.message ∧
      (evenGate.answersTo ⟨1⟩ alone ⟨.empty, ()⟩).map Answer.untimed
        = (evenGate.answersTo ⟨1⟩ crowded ⟨.empty, ()⟩).map Answer.untimed := by
  have halone : alone.filter (·.addresses ⟨1⟩) = alone :=
    List.filter_eq_self.2 (by decide +kernel)
  have hcrowded : (crowded.filter (·.addresses ⟨1⟩)).map Arrival.message
      = alone.map Arrival.message := by
    unfold crowded
    simp (disch := decide +kernel) only [List.filter_cons_of_neg, List.filter_cons_of_pos,
      List.filter_nil]
    rfl
  have hclock : (∀ a ∈ alone, a.now.Legible) ∧ ∀ a ∈ crowded, a.now.Legible := by
    unfold Moment.Legible
    decide
  refine ⟨evenGate_steady, hclock.1, hclock.2, halone, hcrowded, ?_⟩
  exact sessions_isolated evenGate_steady ⟨1⟩ hclock.1 hclock.2
    ((congrArg _ halone).trans hcrowded.symm) () ()

end ScriptGate.Service
