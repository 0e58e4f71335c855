/-
  ScriptGate.Audit.Entry — what the audit trail keeps of an action.

  Main statements:
    - `length_details` — no entry has more details than the trail has room for;
    - `ofName?_name`   — a status is read back from its name.
-/
import ScriptGate.Fault

namespace ScriptGate.Audit

/-! ## §1. Status -/

/-- How an action ended. -/
inductive Status where
  | success
  | failed
  | pending
  | approved
  | draft
  | view
deriving DecidableEq, Repr, Inhabited

/-- The name of a status. -/
def Status.name : Status → String
  | success => "SUCCESS"
  | failed => "FAILED"
  | pending => "PENDING"
  | approved => "APPROVED"
  | draft => "DRAFT"
  | view => "VIEW"

/-- The status of this name. -/
def Status.ofName? (name : String) : Except Fault Status :=
  match name with
  | "SUCCESS" => .ok success
  | "FAILED" => .ok failed
  | "PENDING" => .ok pending
  | "APPROVED" => .ok approved
  | "DRAFT" => .ok draft
  | "VIEW" => .ok view
  | other => .error (.internal s!"Unknown audit status '{other}'")

/-- A status is read back from its name. -/
theorem Status.ofName?_name (s : Status) : ofName? s.name = .ok s := by
  cases s <;> rfl

/-! ## §2. Records -/

/-- The room for details, in characters. -/
def detailsRoom : Nat := 2000

/-- An action and how it ended. -/
structure Record where
  /-- what was done -/
  action : String
  /-- the part of the tool that did it -/
  source : String
  /-- how it ended -/
  status : Status
  /-- what there is to say -/
  details : String
deriving DecidableEq, Repr

/-- The first characters of a text. -/
def firstChars (n : Nat) (s : String) : String := String.ofList (s.toList.take n)

/-- A record; details beyond the room for them are cut off. -/
def Record.of (action source : String) (status : Status) (details : String) : Record :=
  ⟨action, source, status, firstChars detailsRoom details⟩

/-- No record has more details than there is room for. -/
theorem length_details (action source : String) (status : Status) (details : String) :
    (Record.of action source status details).details.length ≤ detailsRoom := by
  simp only [Record.of, firstChars, String.length_ofList, List.length_take]
  exact Nat.min_le_left _ _

end ScriptGate.Audit
