/-
  ScriptGate.Service.Session — the sessions of the operators.

  Every session has a deployment of its own.  A session that was not used for a while is swept
  away, unless something is still at work on it.
  Main statements:
    - `find?_opened`        — a new session has a deployment without a script;
    - `find?_kept`          — a session that is used keeps what is put into it;
    - `find?_opened_ne`, `find?_closed_ne`, `find?_kept_ne` — no session touches another;
    - `find?_closed`        — a closed session is gone;
    - `mem_sweep_iff`       — exactly which sessions stay;
    - `sweep_count`         — every session is either counted or stays.
-/
import ScriptGate.Deployment.Workflow
import ScriptGate.Uuid

namespace ScriptGate.Service

open ScriptGate.Deployment

/-! ## §1. Sessions -/

/-- A session. -/
structure Session where
  /-- its identifier -/
  id : Uuid
  /-- its deployment -/
  workflow : Workflow
  /-- when it was last used, in seconds -/
  lastUse : Nat
deriving DecidableEq, Repr

/-- The sessions that are open. -/
structure Sessions where
  /-- the sessions, the newest first -/
  list : List Session
deriving DecidableEq, Repr

namespace Sessions

/-- No sessions. -/
def empty : Sessions := ⟨[]⟩

/-- The session with an identifier. -/
def find? (r : Sessions) (id : Uuid) : Option Session := r.list.find? (·.id == id)

/-- Without the session with an identifier. -/
def closed (r : Sessions) (id : Uuid) : Sessions := ⟨r.list.filter (·.id != id)⟩

/-- With a new session. -/
def opened (r : Sessions) (id : Uuid) (now : Moment) : Sessions :=
  ⟨⟨id, .new, now.seconds⟩ :: (r.closed id).list⟩

/-- With this deployment in a session that is used now. -/
def kept (r : Sessions) (id : Uuid) (now : Moment) (w : Workflow) : Sessions :=
  ⟨r.list.map fun s => if s.id == id then ⟨id, w, now.seconds⟩ else s⟩

/-! ## §2. Sweeping -/

/-- Was the session unused for this many seconds, with nothing at work on it? -/
def isIdle (now : Moment) (seconds : Nat) (isBusy : Uuid → Bool) (s : Session) : Bool :=
  decide (seconds ≤ now.seconds - s.lastUse) && !isBusy s.id

/-- Drops idle sessions and tells how many. -/
def sweep (r : Sessions) (now : Moment) (seconds : Nat) (isBusy : Uuid → Bool) : Nat × Sessions :=
  let (idle, rest) := r.list.partition (isIdle now seconds isBusy)
  (idle.length, ⟨rest⟩)

/-! ## §3. Laws -/

/-- A new session has a deployment without a script. -/
theorem find?_opened (r : Sessions) (id : Uuid) (now : Moment) :
    (r.opened id now).find? id = some ⟨id, .new, now.seconds⟩ := by
  simp [opened, find?]

theorem find?_filter_ne (list : List Session) {id other : Uuid} (h : other ≠ id) :
    (list.filter (·.id != id)).find? (·.id == other) = list.find? (·.id == other) := by
  induction list with
  | nil => rfl
  | cons s rest ih =>
    by_cases hs : s.id = id
    · simp [hs, Ne.symm h, ih]
    · by_cases ho : s.id = other
      · simp [ho, h]
      · simp [hs, ho, ih]

/-- Closing a session touches no other. -/
theorem find?_closed_ne (r : Sessions) {id other : Uuid} (h : other ≠ id) :
    (r.closed id).find? other = r.find? other := find?_filter_ne r.list h

/-- Opening a session touches no other. -/
theorem find?_opened_ne (r : Sessions) {id other : Uuid} (h : other ≠ id) (now : Moment) :
    (r.opened id now).find? other = r.find? other := by
  have hne : (id == other) = false := by simp [Ne.symm h]
  rw [← find?_closed_ne r h, opened, find?, List.find?_cons, hne]
  rfl

/-- A closed session is gone. -/
theorem find?_closed (r : Sessions) (id : Uuid) : (r.closed id).find? id = none := by
  simp [closed, find?]

/-- A session that is used keeps what is put into it. -/
theorem find?_kept {r : Sessions} {id : Uuid} {s : Session} (h : r.find? id = some s)
    (now : Moment) (w : Workflow) : (r.kept id now w).find? id = some ⟨id, w, now.seconds⟩ := by
  rw [find?] at h
  have hid := List.find?_some h
  have hsame : ((·.id == id) ∘ fun s => if s.id == id then ⟨id, w, now.seconds⟩ else s)
      = fun s : Session => s.id == id := by
    funext session
    by_cases hs : session.id = id <;> simp [hs]
  rw [kept, find?, List.find?_map, hsame, h, Option.map_some, if_pos hid]

/-- Using a session touches no other. -/
theorem find?_kept_ne (r : Sessions) {id other : Uuid} (h : other ≠ id) (now : Moment)
    (w : Workflow) : (r.kept id now w).find? other = r.find? other := by
  simp only [kept, find?]
  induction r.list with
  | nil => rfl
  | cons s rest ih =>
    rw [List.map_cons, List.find?_cons, List.find?_cons, ih]
    by_cases hs : s.id = id
    · have hne : (id == other) = false := by simp [Ne.symm h]
      simp [hs, hne]
    · simp [hs]

/-- Exactly those sessions stay that are not idle. -/
theorem mem_sweep_iff (r : Sessions) (now : Moment) (seconds : Nat) (isBusy : Uuid → Bool)
    (s : Session) :
    s ∈ (r.sweep now seconds isBusy).2.list ↔
      s ∈ r.list ∧ (now.seconds - s.lastUse < seconds ∨ isBusy s.id = true) := by
  simp only [sweep, List.partition_eq_filter_filter, List.mem_filter, Function.comp, isIdle,
    Bool.not_and, Bool.not_not, Bool.or_eq_true, Bool.not_eq_true', decide_eq_false_iff_not,
    Nat.not_le]

/-- Every session is either counted or stays. -/
theorem sweep_count (r : Sessions) (now : Moment) (seconds : Nat) (isBusy : Uuid → Bool) :
    (r.sweep now seconds isBusy).1 + (r.sweep now seconds isBusy).2.list.length =
      r.list.length := by
  simp only [sweep, List.partition_eq_filter_filter]
  induction r.list with
  | nil => rfl
  | cons s rest ih =>
    by_cases h : isIdle now seconds isBusy s <;> simp [h] at ih ⊢ <;> omega

end Sessions

end ScriptGate.Service
