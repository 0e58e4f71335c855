/-
  ScriptGate.Proofs.Service.Idle — which sessions are swept away, and when.

  A session is marked as used when it is opened and whenever a call gets it.  The call then works on
  it for as long as it takes, and no sweep drops the session meanwhile.  But the end of the call
  marks nothing: for a sweep behind it the session is unused since the call began, so a call that
  took longer than sessions may be idle leaves a session behind that the next sweep drops.
  Main statements:
    - `kept_eq`       — a call that takes no time;
    - `mem_step`      — what one event does to the marks;
    - `marked_of_mem` — a session bears its latest mark, whatever happened;
    - `swept_iff`     — which sessions a sweep drops.
-/
import Mathlib.Data.List.Induction
import ScriptGate.Service.Session

namespace ScriptGate.Service

open ScriptGate.Deployment

/-! ## §1. Calls that take time -/

namespace Sessions

/-- With a session marked as used now. -/
def touched (r : Sessions) (id : Uuid) (now : Moment) : Sessions :=
  ⟨r.list.map fun s => if s.id == id then { s with lastUse := now.seconds } else s⟩

/-- With this deployment in a session. -/
def handed (r : Sessions) (id : Uuid) (w : Workflow) : Sessions :=
  ⟨r.list.map fun s => if s.id == id then { s with workflow := w } else s⟩

/-- A call that takes no time marks the session and puts its deployment into it. -/
theorem kept_eq (r : Sessions) (id : Uuid) (now : Moment) (w : Workflow) :
    r.kept id now w = (r.touched id now).handed id w := by
  unfold kept touched handed
  rw [List.map_map]
  congr 2
  funext s
  by_cases hs : s.id = id
  · simp [hs]
  · simp [hs]

end Sessions

/-- What happens to the sessions. -/
inductive Event where
  /-- a session is opened -/
  | opens (id : Uuid)
  /-- a call gets a session -/
  | begins (id : Uuid)
  /-- a call is over and leaves this deployment behind -/
  | ends (id : Uuid) (w : Workflow)
  /-- a session is closed -/
  | closes (id : Uuid)
  /-- sessions that were idle for so many seconds are dropped -/
  | sweeps (seconds : Nat)

/-- Does the event mark a session as used? -/
def Event.marks (id : Uuid) : Event → Bool
  | opens given | begins given => given == id
  | _ => false

/-- The sessions, and those of the calls in progress. -/
structure Registry where
  /-- the sessions that are open -/
  sessions : Sessions
  /-- the session of each call -/
  running : List Uuid

namespace Registry

/-- Is a call in progress on a session? -/
def isBusy (r : Registry) (id : Uuid) : Bool := r.running.contains id

/-- A sweep: how many sessions it drops, and those that are left. -/
def sweep (r : Registry) (now : Moment) (seconds : Nat) : Nat × Sessions :=
  r.sessions.sweep now seconds r.isBusy

/-- One event.  A call begins only on a session that is open, and nothing ends that did not
    begin. -/
def step (r : Registry) (now : Moment) : Event → Registry
  | .opens id => { r with sessions := r.sessions.opened id now }
  | .begins id =>
    if (r.sessions.find? id).isSome then ⟨r.sessions.touched id now, id :: r.running⟩ else r
  | .ends id w => if r.isBusy id then ⟨r.sessions.handed id w, r.running.erase id⟩ else r
  | .closes id => { r with sessions := r.sessions.closed id }
  | .sweeps seconds => { r with sessions := (r.sweep now seconds).2 }

/-- Events in their order, each with its moment. -/
def run (events : List (Moment × Event)) : Registry :=
  events.foldl (fun r event => r.step event.1 event.2) ⟨.empty, []⟩

theorem run_snoc (events : List (Moment × Event)) (event : Moment × Event) :
    run (events ++ [event]) = (run events).step event.1 event.2 :=
  List.foldl_append ..

/-! ## §2. Marks -/

/-- **What one event does to the marks.**  A session that is there afterwards is marked now, or it
    was there before and keeps its mark. -/
theorem mem_step {r : Registry} {now : Moment} {event : Event} {s : Session}
    (hs : s ∈ (r.step now event).sessions.list) :
    (event.marks s.id = true ∧ s.lastUse = now.seconds) ∨
      (event.marks s.id = false ∧
        ∃ earlier ∈ r.sessions.list, earlier.id = s.id ∧ earlier.lastUse = s.lastUse) := by
  cases event with
  | opens id =>
    rcases List.mem_cons.1 hs with rfl | hs
    · exact .inl ⟨beq_self_eq_true id, rfl⟩
    · obtain ⟨hs, hne⟩ := List.mem_filter.1 hs
      refine .inr ⟨?_, s, hs, rfl, rfl⟩
      exact beq_eq_false_iff_ne.2 (Ne.symm (bne_iff_ne.1 hne))
  | begins id =>
    simp only [step] at hs
    split at hs
    · obtain ⟨earlier, hearlier, rfl⟩ := List.mem_map.1 hs
      by_cases hid : earlier.id = id
      · rw [if_pos (beq_iff_eq.2 hid)]
        exact .inl ⟨beq_iff_eq.2 hid.symm, rfl⟩
      · rw [if_neg (fun h => hid (beq_iff_eq.1 h))]
        exact .inr ⟨beq_eq_false_iff_ne.2 (Ne.symm hid), earlier, hearlier, rfl, rfl⟩
    · next hnone =>
      -- there is no such session, so the event is about none of them
      rw [Bool.not_eq_true, Option.isSome_eq_false_iff, Option.isNone_iff_eq_none] at hnone
      refine .inr ⟨beq_eq_false_iff_ne.2 fun hid => ?_, s, hs, rfl, rfl⟩
      exact List.find?_eq_none.1 hnone s hs (beq_iff_eq.2 hid.symm)
  | ends id w =>
    refine .inr ⟨rfl, ?_⟩
    simp only [step] at hs
    split at hs
    · obtain ⟨earlier, hearlier, rfl⟩ := List.mem_map.1 hs
      refine ⟨earlier, hearlier, ?_⟩
      split <;> exact ⟨rfl, rfl⟩
    · exact ⟨s, hs, rfl, rfl⟩
  | closes id => exact .inr ⟨rfl, s, (List.mem_filter.1 hs).1, rfl, rfl⟩
  | sweeps seconds =>
    exact .inr ⟨rfl, s, ((Sessions.mem_sweep_iff _ _ _ _ _).1 hs).1, rfl, rfl⟩

/-- A session bears its latest mark. -/
structure Marked (events : List (Moment × Event)) (s : Session) : Prop where
  given : ∃ event ∈ events, event.2.marks s.id = true ∧ event.1.seconds = s.lastUse
  latest : ∀ event ∈ events, event.2.marks s.id = true → event.1.seconds ≤ s.lastUse

/-- The clock does not go back. -/
def Ordered (events : List (Moment × Event)) : Prop :=
  events.Pairwise fun earlier later => earlier.1.seconds ≤ later.1.seconds

/-- **A session bears its latest mark**, whatever happened. -/
theorem marked_of_mem {events : List (Moment × Event)} (hordered : Ordered events) :
    ∀ s ∈ (run events).sessions.list, Marked events s := by
  -- from the end: the last event is the latest, and what it does not mark keeps its mark
  induction events using List.reverseRecOn with
  | nil => exact fun s hs => absurd hs List.not_mem_nil
  | append_singleton events event ih =>
    obtain ⟨hearlier, -, hlater⟩ := List.pairwise_append.1 hordered
    intro s hs
    rw [run_snoc] at hs
    rcases mem_step hs with ⟨hmarks, hnow⟩ | ⟨hmarks, earlier, hmem, hid, huse⟩
    · refine ⟨⟨event, List.mem_append_right _ List.mem_cons_self, hmarks, hnow.symm⟩, ?_⟩
      intro other hother _
      rw [hnow]
      rcases List.mem_append.1 hother with hother | hother
      · exact hlater other hother event List.mem_cons_self
      · obtain rfl := List.mem_singleton.1 hother
        exact Nat.le_refl _
    · obtain ⟨⟨given, hgiven, hgivenMarks, hgivenUse⟩, hlatest⟩ := ih hearlier earlier hmem
      rw [hid] at hgivenMarks hlatest
      rw [huse] at hgivenUse hlatest
      refine ⟨⟨given, List.mem_append_left _ hgiven, hgivenMarks, hgivenUse⟩, ?_⟩
      intro other hother hotherMarks
      rcases List.mem_append.1 hother with hother | hother
      · exact hlatest other hother hotherMarks
      · rw [List.mem_singleton.1 hother, hmarks] at hotherMarks
        exact absurd hotherMarks Bool.false_ne_true

/-! ## §3. Sweeps -/

/-- Every mark of a session is at least so many seconds old. -/
def LongAgo (events : List (Moment × Event)) (id : Uuid) (now : Moment) (seconds : Nat) : Prop :=
  ∀ event ∈ events, event.2.marks id = true → event.1.seconds + seconds ≤ now.seconds

theorem Marked.le_iff {events : List (Moment × Event)} {s : Session} (h : Marked events s)
    {now : Moment} (hnow : ∀ event ∈ events, event.1.seconds ≤ now.seconds) (seconds : Nat) :
    seconds ≤ now.seconds - s.lastUse ↔ LongAgo events s.id now seconds := by
  obtain ⟨⟨given, hgiven, hmarks, huse⟩, hlatest⟩ := h
  have hpast := hnow given hgiven
  constructor
  · intro hidle event hevent hevent'
    have hle := hlatest event hevent hevent'
    omega
  · intro hall
    have hle := hall given hgiven hmarks
    omega

theorem mem_sweep {r : Registry} {now : Moment} {seconds : Nat} {s : Session} :
    s ∈ (r.sweep now seconds).2.list ↔
      s ∈ r.sessions.list ∧ (now.seconds - s.lastUse < seconds ∨ r.isBusy s.id = true) :=
  Sessions.mem_sweep_iff r.sessions now seconds r.isBusy s

section

variable {events : List (Moment × Event)} (hordered : Ordered events) {now : Moment}
  (hnow : ∀ event ∈ events, event.1.seconds ≤ now.seconds) {seconds : Nat}
include hordered hnow

theorem not_mem_sweep {s : Session} (hs : s ∈ (run events).sessions.list) :
    s ∉ ((run events).sweep now seconds).2.list ↔
      (run events).isBusy s.id = false ∧ LongAgo events s.id now seconds := by
  rw [← (marked_of_mem hordered s hs).le_iff hnow, mem_sweep, not_and, not_or, Nat.not_lt,
    Bool.not_eq_true]
  exact ⟨fun h => (h hs).symm, fun h _ => h.symm⟩

/-- A call that began long enough ago leaves a session behind that is dropped at once. -/
theorem id_ne_of_mem_sweep {id : Uuid} (hsole : (run events).running.count id = 1)
    (hmarks : LongAgo events id now seconds) (w : Workflow) :
    ∀ s ∈ (((run events).step now (.ends id w)).sweep now seconds).2.list, s.id ≠ id := by
  rintro s hs rfl
  have hbusy : (run events).isBusy s.id = true :=
    List.contains_iff_mem.2 (List.count_pos_iff.1 (by omega))
  obtain ⟨hmem, hstays⟩ := mem_sweep.1 hs
  -- the end of the call marks nothing, and the call was the only one
  rcases mem_step hmem with ⟨habsurd, -⟩ | ⟨-, earlier, hearlier, hid, huse⟩
  · exact absurd habsurd Bool.false_ne_true
  · rw [← hid] at hmarks
    have hidle := ((marked_of_mem hordered earlier hearlier).le_iff hnow seconds).2 hmarks
    rcases hstays with hlt | hstill
    · omega
    · have hended : ((run events).step now (.ends s.id w)).running
          = (run events).running.erase s.id := by
        simp only [step, if_pos hbusy]
      unfold isBusy at hstill
      rw [hended, List.contains_iff_mem, ← List.count_pos_iff, List.count_erase_self] at hstill
      omega

end

/-- **Which sessions a sweep drops**: those on which no call is in progress and which were opened,
    and got by every call, long enough ago.  When the calls ended is of no account: where the only
    call on a session began long enough ago, the session is dropped the moment that it ends. -/
theorem swept_iff {events : List (Moment × Event)} (hordered : Ordered events) {now : Moment}
    (hnow : ∀ event ∈ events, event.1.seconds ≤ now.seconds) (seconds : Nat) :
    let r := run events
    let swept := r.sweep now seconds
    swept.1 + swept.2.list.length = r.sessions.list.length ∧
    (∀ s ∈ swept.2.list, s ∈ r.sessions.list) ∧
    (∀ s ∈ r.sessions.list, s ∉ swept.2.list ↔
      r.isBusy s.id = false ∧ LongAgo events s.id now seconds) ∧
    ∀ id w, r.running.count id = 1 → LongAgo events id now seconds →
      ∀ s ∈ ((r.step now (.ends id w)).sweep now seconds).2.list, s.id ≠ id := by
  intro r swept
  refine ⟨Sessions.sweep_count _ _ _ _, fun s hs => (mem_sweep.1 hs).1, ?_, ?_⟩
  · intro s hs
    exact not_mem_sweep hordered hnow hs
  · intro id w hsole hmarks
    exact id_ne_of_mem_sweep hordered hnow hsole hmarks w

/-- A moment so many seconds behind the start. -/
def second (n : Nat) : Moment := ⟨n, "", ""⟩

/-- A session with one call, which takes a minute and a half. -/
def longCall : List (Moment × Event) :=
  [(second 0, .opens ⟨7⟩), (second 10, .begins ⟨7⟩)]

/-- A sweep of what was idle for a minute does not drop the session while the call is at work, and
    drops it as soon as the call is over. -/
theorem long_call_swept :
    Ordered longCall ∧ (∀ event ∈ longCall, event.1.seconds ≤ (second 100).seconds) ∧
    ((run longCall).sweep (second 100) 60).1 = 0 ∧
    let ended := (run longCall).step (second 100) (.ends ⟨7⟩ .new)
    (ended.sweep (second 100) 60).1 = 1 ∧
    ∀ s ∈ (ended.sweep (second 100) 60).2.list, s.id ≠ ⟨7⟩ := by
  have hordered : Ordered longCall := by
    unfold Ordered
    decide
  have hnow : ∀ event ∈ longCall, event.1.seconds ≤ (second 100).seconds := by decide
  have hmarks : LongAgo longCall ⟨7⟩ (second 100) 60 := by
    unfold LongAgo
    decide
  obtain ⟨-, -, -, hdropped⟩ := swept_iff hordered hnow 60
  exact ⟨hordered, hnow, by decide, by decide, hdropped ⟨7⟩ .new (by decide) hmarks⟩

end Registry

end ScriptGate.Service
