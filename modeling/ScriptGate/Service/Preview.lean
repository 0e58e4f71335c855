/-
  ScriptGate.Service.Preview — the first rows of a query.

  A preview runs one query and nothing else.  One row more than is shown is asked for, to tell
  whether there are more.
  Main statements:
    - `soleQuery?_eq_ok_iff` — exactly which texts are previewed, and what of them is run;
    - `length_rows`          — a preview shows no more rows than it may.
-/
import ScriptGate.Database.Call
import ScriptGate.Script.Scan
import ScriptGate.Statement.Kind
import ScriptGate.Text.Digit

namespace ScriptGate.Service

open ScriptGate.Statement ScriptGate.Text

/-! ## §1. Which query -/

/-- What a kind of statement is called. -/
def kindTitle : Kind → String
  | .select => "Select"
  | .insert => "Insert"
  | .update => "Update"
  | .delete => "Delete"
  | .alter => "Alter"
  | .drop => "Drop"
  | .truncate => "Truncate"
  | .createTable => "CreateTable"
  | .unknown => "Unknown"

/-- The fault of several statements, or of none. -/
def notSole : Fault := .badRequest "Preview accepts exactly one SELECT statement."

/-- The fault of a statement that reads nothing. -/
def notQuery (kind : Kind) : Fault :=
  .badRequest ("Only SELECT statements can be previewed (got " ++ kindTitle kind ++ ").")

/-- The only statement of a text, if it is a query. -/
def soleQuery? (text : List Char) : Except Fault (List Char) :=
  match Script.fragments text with
  | [statement] =>
    match Kind.ofStatement (String.ofList statement) with
    | .select => .ok statement
    | other => .error (notQuery other)
  | _ => .error notSole

/-! ## §2. Its first rows -/

/-- The first rows of a query. -/
structure Preview where
  /-- the rows -/
  rows : List Database.Row
  /-- how many rows it may show -/
  limit : Nat
  /-- are there more? -/
  truncated : Bool

/-- How many rows are asked for. -/
def askedFor (limit : Nat) : Nat := min (limit + 1) bound64

/-- The preview of what was answered. -/
def Preview.of (limit : Nat) (answered : List Database.Row) : Preview :=
  ⟨answered.take limit, limit, decide (limit < answered.length)⟩

/-- Previews the query of a text. -/
def preview (db : Database σ) (limit : Nat) (text : List Char) :
    StateM σ (Except Fault Preview) := do
  match soleQuery? text with
  | .error fault => return .error fault
  | .ok query => return (← db.query query (askedFor limit)).map (.of limit)

/-! ## §3. Laws -/

/-- A text is previewed exactly when it is one query, and that query is run. -/
theorem soleQuery?_eq_ok_iff (text query : List Char) :
    soleQuery? text = .ok query ↔
      Script.fragments text = [query] ∧ Kind.ofStatement (String.ofList query) = .select := by
  rw [soleQuery?]
  constructor
  · intro h
    split at h
    · rename_i statement hs
      split at h
      · rename_i hk
        cases h
        exact ⟨hs, hk⟩
      · cases h
    · cases h
  · rintro ⟨hs, hk⟩
    simp only [hs, hk]

/-- A preview shows no more rows than it may. -/
theorem length_rows (limit : Nat) (answered : List Database.Row) :
    (Preview.of limit answered).rows.length ≤ limit := by
  rw [Preview.of, List.length_take]
  exact Nat.min_le_left _ _

end ScriptGate.Service
