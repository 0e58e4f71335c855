/-
  ScriptGate.Audit.Trail — the audit trail.

  Entries are only ever added, each with an identifier of its own, until the trail is cleared as a
  whole.  Where the trail is kept is left open: a store is whatever appends, lists and clears.
  Main statement:
    - `append_entries` — an append adds one entry and touches no other.
-/
import ScriptGate.Audit.Entry
import ScriptGate.Moment
import ScriptGate.Uuid

namespace ScriptGate.Audit

/-! ## §1. The trail -/

/-- One entry. -/
structure Entry where
  /-- its identifier -/
  id : Uuid
  /-- what it is about -/
  record : Record
  /-- when it was made -/
  timestamp : String
deriving DecidableEq, Repr

/-- The trail, held in memory. -/
structure Trail where
  /-- how many entries were ever made -/
  made : Nat
  /-- the entries, newest first -/
  entries : List Entry
deriving DecidableEq, Repr

namespace Trail

/-- The trail without entries. -/
def empty : Trail := ⟨0, []⟩

/-- The identifier of the entry made after `n` others. -/
def nextId (n : Nat) : Uuid := ⟨BitVec.ofNat 128 n⟩

/-- Adds an entry. -/
def append (t : Trail) (now : Moment) (r : Record) : Trail :=
  ⟨t.made + 1, ⟨nextId t.made, r, now.stamp⟩ :: t.entries⟩

/-- The newest entries, newest first. -/
def newest (t : Trail) (limit : Nat) : List Entry := t.entries.take limit

/-- The trail without its entries. -/
def cleared (t : Trail) : Trail := { t with entries := [] }

/-- An append adds one entry and touches no other. -/
theorem append_entries (t : Trail) (now : Moment) (r : Record) :
    (t.append now r).entries = ⟨nextId t.made, r, now.stamp⟩ :: t.entries := rfl

end Trail

/-! ## §2. Stores -/

/-- Where a trail is kept. -/
structure Store (σ : Type) where
  /-- adds an entry -/
  append : Moment → Record → StateM σ (Except Fault Unit)
  /-- the newest entries, newest first -/
  list : Nat → StateM σ (Except Fault (List Entry))
  /-- removes all entries and tells how many there were -/
  clear : StateM σ (Except Fault Nat)

/-- A trail in memory beside any other state. -/
def Store.memory : Store (τ × Trail) where
  append now r := fun s => (.ok (), (s.1, s.2.append now r))
  list limit := fun s => (.ok (s.2.newest limit), s)
  clear := fun s => (.ok s.2.entries.length, (s.1, s.2.cleared))

/-- A store that nothing can be done with. -/
def Store.broken (fault : Fault) : Store σ where
  append _ _ := return .error fault
  list _ := return .error fault
  clear := return .error fault

end ScriptGate.Audit
