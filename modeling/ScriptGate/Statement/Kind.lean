/-
  ScriptGate.Statement.Kind — the kinds of statements that the review rules tell apart.

  Main statements:
    - `Kind.ofText_eq_select_iff` — a statement that opens with SELECT or WITH counts as a query;
    - `Kind.isDml_ofText`         — the counted kinds are the ones that open with INSERT, UPDATE
                                    or DELETE.
-/
import ScriptGate.Script.Keyword
import ScriptGate.Text.Pattern

namespace ScriptGate.Statement

open ScriptGate.Text ScriptGate.Script

/-! ## §1. Kinds -/

/-- What a statement does, as far as the rules care. -/
inductive Kind where
  /-- reads rows; a statement that opens with WITH is taken for one -/
  | select
  /-- adds rows -/
  | insert
  /-- changes rows -/
  | update
  /-- removes rows -/
  | delete
  /-- changes a definition -/
  | alter
  /-- removes a definition -/
  | drop
  /-- empties a table -/
  | truncate
  /-- defines a table -/
  | createTable
  /-- anything else -/
  | unknown
deriving DecidableEq, Repr, Inhabited

/-- The kinds whose execution reports a number of rows. -/
def Kind.isDml : Kind → Bool
  | .insert | .update | .delete => true
  | _ => false

/-! ## §2. From the opening words -/

/-- `CREATE TABLE`, `CREATE TEMPORARY TABLE`, `CREATE UNLOGGED TABLE`, in capitals. -/
def createTablePattern : Pattern :=
  .all [.front, .blanksOrNone, .text "CREATE", .blanks,
    .optional (.any [
      .all [.text "TEMP", .run 0 isWordChar, .blanks],
      .all [.text "UNLOGGED", .blanks]]),
    .text "TABLE", .wordEdge]

/-- The kind by the opening words of a statement in capitals. -/
def Kind.ofText (text : List Char) : Kind :=
  match keywordOf (String.ofList text) with
  | "SELECT" | "WITH" => .select
  | "INSERT" => .insert
  | "UPDATE" => .update
  | "DELETE" => .delete
  | "ALTER" => .alter
  | "DROP" => .drop
  | "TRUNCATE" => .truncate
  | "CREATE" => if createTablePattern.occurs text then .createTable else .unknown
  | _ => .unknown

/-- The kind of a statement as it is written. -/
def Kind.ofStatement (statement : String) : Kind := .ofText (upper statement.toList)

/-- Each counted kind has a word of its own. -/
theorem Kind.ofText_eq_iff (text : List Char) :
    (Kind.ofText text = .insert ↔ keywordOf (String.ofList text) = "INSERT") ∧
      (Kind.ofText text = .update ↔ keywordOf (String.ofList text) = "UPDATE") ∧
      (Kind.ofText text = .delete ↔ keywordOf (String.ofList text) = "DELETE") := by
  unfold Kind.ofText
  by_cases h : createTablePattern.occurs text = true <;> simp only [h] <;> split <;> simp_all

/-- The counted kinds are the ones that open with INSERT, UPDATE or DELETE. -/
theorem Kind.isDml_ofText (text : List Char) :
    (Kind.ofText text).isDml = true ↔
      keywordOf (String.ofList text) ∈ ["INSERT", "UPDATE", "DELETE"] := by
  have hkinds (kind : Kind) :
      kind.isDml = true ↔ kind = .insert ∨ kind = .update ∨ kind = .delete := by
    cases kind <;> decide
  obtain ⟨hinsert, hupdate, hdelete⟩ := Kind.ofText_eq_iff text
  rw [hkinds, hinsert, hupdate, hdelete]
  simp only [List.mem_cons, List.not_mem_nil, or_false]

end ScriptGate.Statement
