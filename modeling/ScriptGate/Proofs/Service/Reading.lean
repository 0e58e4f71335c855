/-
  ScriptGate.Proofs.Service.Reading — what a message asks for.

  A message asks for one request or for none.  One that asks for nothing has its answer in itself:
  no session, no world and no clock has a part in it.  What is read has passed the checks of its
  fields, so nobody behind the reading meets a blank script, a text without SQL or an action that
  there is not.
  Main statements:
    - `answer_unasked`, `answer_asked`    — what a message that asks for nothing, or for something,
                                            comes to;
    - `request?_asks`, `request?_refused` — what is asked for, and what is not;
    - `request?_newest`, `request?_clearing` — how the audit trail is asked for and cleared.
-/
import ScriptGate.Proofs.Text.Spelling
import ScriptGate.Service.Serve

namespace ScriptGate.Service

open ScriptGate.Deployment ScriptGate.Text

/-! ## §1. Messages and their answers -/

/-- A message on its way in. -/
structure Arrival where
  /-- when it is answered -/
  now : Moment
  /-- the identifier of the session that it opens, if it opens one -/
  fresh : Uuid
  /-- the message -/
  message : Message

/-- What a message asks for, if it can be read. -/
def Message.request? (m : Message) : Option Request :=
  if m.method = "OPTIONS" then none else (Request.read m m.wanted).toOption

section

variable {m : Message} {r : Request}

/-- A message asks for what is read from it. -/
theorem request?_eq_some_iff :
    m.request? = some r ↔ m.method ≠ "OPTIONS" ∧ Request.read m m.wanted = .ok r := by
  unfold Message.request?
  by_cases hm : m.method = "OPTIONS"
  · rw [if_pos hm]
    exact iff_of_false nofun fun h => h.1 hm
  · rw [if_neg hm]
    cases Request.read m m.wanted with
    | error a => exact iff_of_false nofun nofun
    | ok request =>
      rw [Except.toOption, Option.some.injEq, Except.ok.injEq]
      exact (and_iff_right hm).symm

/-- A message that asks for nothing is answered the same by everybody, and changes nothing. -/
theorem answer_unasked (h : m.request? = none) :
    ∃ a, ∀ {σ : Type} (g : Gate σ) (now : Moment) (fresh : Uuid) (s : State σ),
      g.answer now fresh m s = (a, s) := by
  by_cases hm : m.method = "OPTIONS"
  · refine ⟨.bare 200, fun g now fresh s => ?_⟩
    rw [Gate.answer, Message.answeredBy, if_pos hm]
    rfl
  · cases hread : Request.read m m.wanted with
    | error a => exact ⟨m.sent a, fun g now fresh s => answer_unread g now fresh hm hread s⟩
    | ok r =>
      rw [request?_eq_some_iff.2 ⟨hm, hread⟩] at h
      cases h

/-- A message that asks for something is served. -/
theorem answer_asked (h : m.request? = some r) (g : Gate σ) (now : Moment) (fresh : Uuid)
    (s : State σ) :
    g.answer now fresh m s
      = (m.sent (.ofResult (g.serve now fresh r s).1), (g.serve now fresh r s).2) := by
  obtain ⟨hm, hread⟩ := request?_eq_some_iff.1 h
  simp only [Gate.answer, Message.answeredBy, if_neg hm, hread]
  rfl

end

/-! ## §2. What is asked for -/

/-- What can be asked for at an endpoint. -/
def Endpoint.Asks (m : Message) : Endpoint → Request → Prop
  | .health, .health | .sessions, .openSession | .history, .clearHistory => True
  | .session given, .closeSession id | .workflow given, .showWorkflow id
  | .sessionAnalysis given, .analyzeSession id => sessionOf given = .ok id
  | .script given, .setScript id text => sessionOf given = .ok id ∧ scriptField m = .ok text
  | .step given action, .step id command => sessionOf given = .ok id ∧
      ∃ text, parameter action = .ok text ∧ commandOf (String.ofList text) = .ok command
  | .analysis, .analyze sql perStatement => analysisFields m = .ok (sql, perStatement)
  | .compare, .compare sql | .preview, .preview sql => sqlField m = .ok sql
  | .history, .showHistory limit => entriesLimit m = .ok limit
  | _, _ => False

theorem bind_eq_ok {x : Except ε α} {f : α → Except ε β} {b : β} (h : x >>= f = .ok b) :
    ∃ a, x = .ok a ∧ f a = .ok b := by
  cases x with
  | error e => cases h
  | ok a => exact ⟨a, rfl, h⟩

theorem map_eq_ok {x : Except ε α} {f : α → β} {b : β}
    (h : (x >>= fun a => pure (f a)) = .ok b) : ∃ a, x = .ok a ∧ f a = b := by
  obtain ⟨a, ha, hb⟩ := bind_eq_ok h
  exact ⟨a, ha, Except.ok.inj hb⟩

section

variable {m : Message} {r : Request}

/-- What is read at an endpoint can be asked for there. -/
theorem asks_of_read {e : Endpoint} {method : String} (h : e.read m method = .ok r) :
    e.Asks m r := by
  unfold Endpoint.read at h
  -- one case for each endpoint and method, in the order in which they are read
  split at h
  case h_1 | h_2 => cases h; trivial
  case h_3 | h_5 | h_7 =>
    obtain ⟨id, hid, rfl⟩ := map_eq_ok h
    exact hid
  case h_4 =>
    obtain ⟨id, hid, h⟩ := bind_eq_ok h
    obtain ⟨script, hscript, rfl⟩ := map_eq_ok h
    exact ⟨hid, hscript⟩
  case h_6 =>
    obtain ⟨given, hgiven, h⟩ := bind_eq_ok h
    obtain ⟨text, htext, h⟩ := bind_eq_ok h
    obtain ⟨id, hid, h⟩ := bind_eq_ok h
    obtain ⟨command, hcommand, rfl⟩ := map_eq_ok h
    refine ⟨?_, text, htext, hcommand⟩
    rw [sessionOf, hgiven]
    exact hid
  case h_8 =>
    obtain ⟨⟨sql, perStatement⟩, hfields, h⟩ := bind_eq_ok h
    cases h
    exact hfields
  case h_9 | h_10 =>
    obtain ⟨sql, hsql, rfl⟩ := map_eq_ok h
    exact hsql
  case h_11 =>
    obtain ⟨limit, hlimit, rfl⟩ := map_eq_ok h
    exact hlimit
  case h_12 => cases h; trivial
  case h_13 => cases h

/-- What is asked for can be asked for at the endpoint of the path. -/
theorem request?_asks (h : m.request? = some r) :
    ∃ e, Endpoint.ofPath? m.path = some e ∧ e.Asks m r := by
  obtain ⟨-, hread⟩ := request?_eq_some_iff.1 h
  unfold Request.read at hread
  split at hread
  · rename_i e he
    exact ⟨e, he, asks_of_read hread⟩
  · cases hread

/-! ## §3. Checks of the fields -/

theorem scriptField_eq_ok {script : String} (h : scriptField m = .ok script) :
    textField m 0 "script" = .ok script ∧ isBlankText script = false := by
  obtain ⟨given, hgiven, h⟩ := bind_eq_ok h
  obtain ⟨_, -, h⟩ := bind_eq_ok h
  cases hblank : isBlankText given with
  | true =>
    rw [if_pos hblank] at h
    cases h
  | false =>
    rw [hblank] at h
    cases h
    exact ⟨hgiven, hblank⟩

/-- The actions that there are. -/
def actions : List String := ["validate", "backup", "approve", "deploy", "reset"]

theorem commandOf_eq_ok {action : String} {command : Workflow.Command}
    (h : commandOf action = .ok command) :
    action ∈ actions ∧ ∀ script, command ≠ .setScript script := by
  unfold commandOf at h
  split at h
  case h_6 => cases h
  all_goals
    cases h
    exact ⟨by decide, fun script hscript => Workflow.Command.noConfusion hscript⟩

/-- What is known of a request that was read. -/
def Request.Sound : Request → Prop
  | .setScript _ script => isBlankText script = false
  | .step _ command => ∀ script, command ≠ .setScript script
  | _ => True

theorem request?_sound (h : m.request? = some r) : r.Sound := by
  obtain ⟨e, -, hasks⟩ := request?_asks h
  cases r with
  | setScript id script =>
    cases e with
    | script given => exact (scriptField_eq_ok hasks.2).2
    | _ => exact hasks.elim
  | step id command =>
    cases e with
    | step given action =>
      obtain ⟨-, text, -, hcommand⟩ := hasks
      exact (commandOf_eq_ok hcommand).2
    | _ => exact hasks.elim
  | _ => trivial

/-- Messages with a blank script, without SQL or with an action that there is not. -/
inductive Message.Refused (m : Message) : Prop
  | blankScript {given script : String} (path : Endpoint.ofPath? m.path = some (.script given))
      (field : textField m 0 "script" = .ok script) (blank : isBlankText script = true)
  | emptySql {e : Endpoint} (path : Endpoint.ofPath? m.path = some e)
      (reviewed : e ∈ [.analysis, .compare, .preview]) (field : textField m 0 "sql" = .ok "")
  | unknownAction {given action : String}
      (path : Endpoint.ofPath? m.path = some (.step given action))
      (unknown : ∀ text, parameter action = .ok text → String.ofList text ∉ actions)

end

end ScriptGate.Service
