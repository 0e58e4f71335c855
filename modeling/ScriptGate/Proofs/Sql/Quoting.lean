/-
  ScriptGate.Proofs.Sql.Quoting — no name gets out of its quotes.

  The statements that the tool writes itself are plain text with quoted names in it, and the names
  are whatever the database or a caller calls its tables.  Inside of its quotes a name means
  nothing to the scanner, whatever it holds; the plain text has no mark that means anything.  So
  each of them is one statement, and the names can be read off it again.
  Main statements:
    - `Passes.append`     — texts that the scanner keeps may be put side by side;
    - `bodyOff?_doubled`  — a name is read off the front of a text;
    - `names_confined`    — the statements stay statements, and the names are told apart.
-/
import Mathlib.Logic.Function.Basic
import ScriptGate.Proofs.Script.Grammar
import ScriptGate.Sql.Written

/-! ## §1. Texts that pass -/

namespace ScriptGate.Script

open ScriptGate.Text

/-- The scanner keeps the text wherever it stands at top level, and is at top level behind it. -/
structure Passes (text : List Char) : Prop where
  reads {s : Scanner} : s.mode.isTop = true → s.Reads text text

/-- A text without marks passes. -/
theorem passes_unmarked {text : List Char} (h : text.all (!isMark ·) = true) : Passes text := by
  constructor
  induction text with
  | nil => exact fun hs => reads_nil hs
  | cons c rest ih =>
    intro s hs
    rw [List.all_cons, Bool.and_eq_true, Bool.not_eq_true'] at h
    exact reads_cons (read_plain hs h.1 rest).2.2 (ih h.2 rfl)

/-- Texts that pass may be put side by side where no look-ahead goes from one into the other. -/
theorem Passes.append {front back : List Char} (hfront : Passes front) (hback : Passes back)
    (hapart : startsApart back = true) : Passes (front ++ back) where
  reads {s} hs := by
    obtain ⟨mode, htop, hrun⟩ := hfront.reads hs
    have hbehind : (s.run front).mode.isTop = true := by
      rw [hrun]
      exact htop
    obtain ⟨mode', htop', hrun'⟩ := hback.reads hbehind
    refine ⟨mode', htop', ?_⟩
    rw [run_append s hapart, hrun', hrun, List.reverse_append, List.append_assoc]

/-- A text that passes is one statement, unless it is blank at an end. -/
theorem fragments_of_passes {text : List Char} (h : Passes text) (hne : text ≠ [])
    (hhead : text.head?.any isBlank = false) (hlast : text.getLast?.any isBlank = false) :
    fragments text = [text] := by
  rw [fragments_of_reads (h.reads rfl), whole, trim_eq_self hhead hlast,
    if_neg fun hempty => hne (List.isEmpty_iff.1 hempty)]

end ScriptGate.Script

namespace ScriptGate.Sql.Written

open ScriptGate.Script ScriptGate.Text

/-! ## §2. Quoted names pass -/

theorem doubled_eq_doubling (name : List Char) : doubled name = doubling '"' name := by
  induction name with
  | nil => rfl
  | cons c rest ih =>
    rw [doubling_cons, doubled, ih]
    by_cases hc : c = '"'
    · rw [if_pos hc, if_pos (beq_iff_eq.2 hc)]
      rfl
    · rw [if_neg hc, if_neg (fun heq => hc (beq_iff_eq.1 heq))]
      rfl

theorem passes_quoted (name : List Char) : Passes (quoted name) where
  reads {s} hs := by
    have hopen : ∀ ahead, s.read '"' ahead = s.push '"' .quoted := by
      intro ahead
      rw [read_top hs]
      rfl
    unfold quoted
    rw [doubled_eq_doubling]
    exact reads_cons (hopen _) (reads_enclosed encloses_quoted name rfl)

theorem startsApart_quoted (name : List Char) : startsApart (quoted name) = true := by
  show isBoundary '"' = true
  decide

theorem passes_qualified (schema table : List Char) : Passes (qualified schema table) := by
  have hpoint : Passes ['.'] := passes_unmarked (by decide)
  have htable : Passes ('.' :: quoted table) :=
    hpoint.append (passes_quoted table) (startsApart_quoted table)
  refine (passes_quoted schema).append htable ?_
  show isBoundary '.' = true
  decide

theorem getLast?_quoted (name : List Char) : (quoted name).getLast? = some '"' := by
  rw [quoted, List.getLast?_append]
  rfl

theorem getLast?_qualified (schema table : List Char) :
    (qualified schema table).getLast? = some '"' := by
  rw [qualified, List.getLast?_append, List.getLast?_cons, getLast?_quoted]
  rfl

/-! ## §3. The statements -/

section

/-! What passes may go on with a name, or with plain text that begins apart. -/

variable {front : List Char} (h : Passes front)
include h

theorem passes_append_quoted (name : List Char) : Passes (front ++ quoted name) :=
  h.append (passes_quoted name) (startsApart_quoted name)

theorem passes_append_qualified (schema table : List Char) :
    Passes (front ++ qualified schema table) :=
  h.append (passes_qualified schema table) (startsApart_quoted schema)

theorem passes_append_unmarked (text : List Char) (htext : text.all (!isMark ·) = true)
    (hapart : startsApart text = true) : Passes (front ++ text) :=
  h.append (passes_unmarked htext) hapart

end

theorem fragments_createSchema (schema : List Char) :
    fragments (createSchema schema) = [createSchema schema] := by
  unfold createSchema
  have hopening : Passes "CREATE SCHEMA IF NOT EXISTS ".toList := passes_unmarked (by decide +kernel)
  refine fragments_of_passes (passes_append_quoted hopening schema) (List.cons_ne_nil _ _) rfl ?_
  rw [List.getLast?_append, getLast?_quoted]
  rfl

theorem fragments_dropTableIfExists (schema table : List Char) :
    fragments (dropTableIfExists schema table) = [dropTableIfExists schema table] := by
  unfold dropTableIfExists
  have hopening : Passes "DROP TABLE IF EXISTS ".toList := passes_unmarked (by decide +kernel)
  refine fragments_of_passes (passes_append_qualified hopening schema table)
    (List.cons_ne_nil _ _) rfl ?_
  rw [List.getLast?_append, getLast?_qualified]
  rfl

theorem fragments_createTableLike (target source table : List Char) :
    fragments (createTableLike target source table) = [createTableLike target source table] := by
  unfold createTableLike
  -- the plain text between the names begins with a blank, where every look-ahead ends
  have hopening : Passes "CREATE TABLE ".toList := passes_unmarked (by decide +kernel)
  have hlike := passes_append_unmarked (passes_append_qualified hopening target table)
    " (LIKE ".toList (by decide +kernel) (by decide +kernel)
  have hpasses := passes_append_unmarked (passes_append_qualified hlike source table)
    " INCLUDING ALL)".toList (by decide +kernel) (by decide +kernel)
  refine fragments_of_passes hpasses (List.cons_ne_nil _ _) rfl ?_
  rw [List.getLast?_append]
  rfl

theorem fragments_copyRows (target source table : List Char) :
    fragments (copyRows target source table) = [copyRows target source table] := by
  unfold copyRows
  have hopening : Passes "INSERT INTO ".toList := passes_unmarked (by decide +kernel)
  have hselect := passes_append_unmarked (passes_append_qualified hopening target table)
    " SELECT * FROM ".toList (by decide +kernel) (by decide +kernel)
  refine fragments_of_passes (passes_append_qualified hselect source table)
    (List.cons_ne_nil _ _) rfl ?_
  rw [List.getLast?_append, getLast?_qualified]
  rfl

/-! ## §4. Reading the names -/

/-- Reads the rest of a quoted identifier off the front of a text, its opening quote gone
    already. -/
def bodyOff? : List Char → Option (List Char × List Char)
  | [] => none
  | c :: rest =>
    if c = '"' then
      match rest with
      | '"' :: rest => (bodyOff? rest).map fun (name, behind) => ('"' :: name, behind)
      | _ => some ([], rest)
    else (bodyOff? rest).map fun (name, behind) => (c :: name, behind)

/-- The schema and the table that a qualified name stands for. -/
def names? (text : List Char) : Option (List Char × List Char) :=
  match text with
  | '"' :: rest =>
    match bodyOff? rest with
    | some (schema, '.' :: table) => (unquoted? table).map (schema, ·)
    | _ => none
  | _ => none

/-- A name is read off the front of a text, up to the first quote that is not doubled. -/
theorem bodyOff?_doubled (name : List Char) {behind : List Char} (h : behind.head? ≠ some '"') :
    bodyOff? (doubled name ++ '"' :: behind) = some (name, behind) := by
  induction name with
  | nil =>
    -- the closing quote: no other stands behind it
    show bodyOff? ('"' :: behind) = _
    unfold bodyOff?
    rw [if_pos rfl]
    split
    · exact absurd rfl h
    · rfl
  | cons c rest ih =>
    by_cases hc : c = '"'
    · rw [doubled, if_pos (beq_iff_eq.2 hc), hc]
      show bodyOff? ('"' :: '"' :: (doubled rest ++ '"' :: behind)) = _
      unfold bodyOff?
      rw [if_pos rfl]
      show Option.map _ (bodyOff? (doubled rest ++ '"' :: behind)) = _
      rw [ih]
      rfl
    · rw [doubled, if_neg (fun heq => hc (beq_iff_eq.1 heq))]
      show bodyOff? (c :: (doubled rest ++ '"' :: behind)) = _
      unfold bodyOff?
      rw [if_neg hc, ih]
      rfl

/-- A qualified name is read back as the two names that it is made of. -/
theorem names?_qualified (schema table : List Char) :
    names? (qualified schema table) = some (schema, table) := by
  have hsplit : qualified schema table
      = '"' :: (doubled schema ++ '"' :: '.' :: quoted table) := by
    simp [qualified, quoted]
  have hpoint : ('.' :: quoted table).head? ≠ some '"' := by
    rw [List.head?_cons]
    decide
  rw [hsplit]
  show (match bodyOff? (doubled schema ++ '"' :: '.' :: quoted table) with
    | some (schema, '.' :: table) => (unquoted? table).map (schema, ·)
    | _ => none) = _
  rw [bodyOff?_doubled schema hpoint]
  show (unquoted? (quoted table)).map (schema, ·) = _
  rw [unquoted?_quoted]
  rfl

/-- Different pairs of names have different qualified forms. -/
theorem qualified_injective2 : Function.Injective2 qualified := by
  intro schema schema' table table' h
  have hread := congrArg names? h
  rw [names?_qualified, names?_qualified, Option.some.injEq, Prod.mk.injEq] at hread
  exact hread

/-- **No name gets out of its quotes.**  Whatever the names are, every statement that the tool
    writes is one statement; a name is read back from its quoted form, and a pair of names from
    its qualified form, so different names stay different. -/
theorem names_confined :
    (∀ target source table : List Char,
      ∀ text ∈ [createSchema target, dropTableIfExists target table,
          createTableLike target source table, copyRows target source table],
        fragments text = [text]) ∧
    (∀ name : List Char, unquoted? (quoted name) = some name) ∧
    Function.Injective quoted ∧
    (∀ schema table : List Char, names? (qualified schema table) = some (schema, table)) ∧
    Function.Injective2 qualified := by
  refine ⟨?_, unquoted?_quoted, fun _ _ => quoted_inj, names?_qualified, qualified_injective2⟩
  intro target source table
  simp only [List.forall_mem_cons]
  exact ⟨fragments_createSchema target, fragments_dropTableIfExists target table,
    fragments_createTableLike target source table, fragments_copyRows target source table,
    fun _ h => absurd h List.not_mem_nil⟩

/-- A name that closes its quotes, ends the statement and comments out the rest does not. -/
example : fragments (dropTableIfExists ['"', ';', '-', '-'] ['$', '$', '/', '*'])
    = ["DROP TABLE IF EXISTS \"\"\";--\".\"$$/*\"".toList] := by
  decide +kernel

end ScriptGate.Sql.Written
