/-
  ScriptGate.Proofs.Schema.WholeTable — warnings about statements that concern all rows of a table.

  An UPDATE or DELETE without a WHERE clause is warned of.  The clause is looked for in the whole of
  the statement, its literals and quoted names included: the word WHERE anywhere in them is taken for
  a clause, and the statement is told to concern matching rows only.  The warning comes if and only
  if the word stands in no part of the statement, quoted or not.
  Main statements:
    - `words_upper_passage`     — the words of a text are those of its plain and its quoted parts;
    - `normalise_text`          — how such a statement begins in capitals with single blanks;
    - `predictStatement_text`   — what is told of it;
    - `warned_unless_quoted`    — when the warning comes.
-/
import ScriptGate.Proofs.Schema.Normal
import ScriptGate.Proofs.Script.Grammar

namespace ScriptGate.Schema

open ScriptGate.Script ScriptGate.Statement ScriptGate.Text ScriptGate.Text.Pattern

/-! ## §1. Quoted parts -/

/-- A part of a statement that stands between quotes. -/
inductive Quotation where
  /-- a string with this body -/
  | literal (body : List Char)
  /-- an escape string behind its letter -/
  | escapes (body : List Piece)
  /-- a quoted identifier -/
  | identifier (name : List Char)
  /-- a dollar quote -/
  | dollar (tag body : List Char) (htag : tag.all isNameChar = true)
      (h : EndsFirst (dollarDelimiter tag) body)

/-- A quoted part as it is written. -/
def Quotation.text : Quotation → List Char
  | literal body => '\'' :: (doubling '\'' body ++ ['\''])
  | escapes body => '\'' :: (body.flatMap Piece.text ++ ['\''])
  | identifier name => '"' :: (doubling '"' name ++ ['"'])
  | dollar tag body _ _ => dollarDelimiter tag ++ body ++ dollarDelimiter tag

/-- A text with quoted parts: what stands in front of the first of them, and behind each. -/
structure Passage where
  plain : List Char
  more : List (Quotation × List Char)

namespace Passage

/-- The text as it is written. -/
def text (p : Passage) : List Char :=
  p.plain ++ p.more.flatMap fun part => part.1.text ++ part.2

/-- Its quoted parts. -/
def quotations (p : Passage) : List Quotation := p.more.map Prod.fst

/-- What is left without them. -/
def plains (p : Passage) : List (List Char) := p.plain :: p.more.map Prod.snd

end Passage

/-- A quoted part stands between two marks that belong to no word. -/
theorem Quotation.exists_marks (q : Quotation) : ∃ (mark : Char) (inner : List Char),
    q.text = mark :: (inner ++ [mark]) ∧ upperOf mark = [mark] ∧ isWordChar mark = false := by
  cases q with
  | literal body => exact ⟨'\'', _, rfl, by decide, by decide⟩
  | escapes body => exact ⟨'\'', _, rfl, by decide, by decide⟩
  | identifier name => exact ⟨'"', _, rfl, by decide, by decide⟩
  | dollar tag body _ _ =>
    refine ⟨'$', tag ++ '$' :: (body ++ '$' :: tag), ?_, by decide, by decide⟩
    simp [Quotation.text, dollarDelimiter]

/-- **The words of a text are those of its plain and its quoted parts.** -/
theorem words_upper_passage (p : Passage) : words (upper p.text) =
    words (upper p.plain) ++
      p.more.flatMap fun part => words (upper part.1.text) ++ words (upper part.2) := by
  obtain ⟨plain, more⟩ := p
  unfold Passage.text
  dsimp only
  induction more generalizing plain with
  | nil => rw [List.flatMap_nil, List.flatMap_nil, List.append_nil, List.append_nil]
  | cons part rest ih =>
    obtain ⟨q, behind⟩ := part
    obtain ⟨mark, inner, htext, hupper, hbreak⟩ := q.exists_marks
    have hq : upper q.text = mark :: (upper inner ++ [mark]) := by
      rw [htext, upper_cons, upper_append, hupper, upper_cons, hupper]
      rfl
    have hlast : (upper q.text).getLast?.any isWordChar = false := by
      rw [hq, ← List.cons_append, List.getLast?_concat]
      exact hbreak
    have hhead : (upper q.text ++ (upper behind ++
        upper (rest.flatMap fun part => part.1.text ++ part.2))).head?.any isWordChar = false := by
      rw [hq]
      exact hbreak
    -- the two marks keep the quoted part apart from what stands around it
    rw [List.flatMap_cons, List.flatMap_cons, List.append_assoc q.text, upper_append plain,
      upper_append q.text, upper_append behind, words_append (.inr hhead), words_append (.inl hlast),
      ← upper_append behind, ih behind]
    simp only [List.append_assoc]

/-- The word WHERE stands in the text, whatever the case of its letters. -/
def HoldsWhere (text : List Char) : Prop := "WHERE".toList ∈ words (upper text)

instance (text : List Char) : Decidable (HoldsWhere text) := inferInstanceAs (Decidable (_ ∈ _))

theorem holdsWhere_passage (p : Passage) : HoldsWhere p.text ↔
    (∃ plain ∈ p.plains, HoldsWhere plain) ∨ ∃ q ∈ p.quotations, HoldsWhere q.text := by
  unfold HoldsWhere Passage.plains Passage.quotations
  rw [words_upper_passage, List.mem_append, List.mem_flatMap]
  simp only [List.mem_append, List.exists_mem_cons_iff, List.mem_map]
  constructor
  · rintro (hplain | ⟨part, hpart, hq | hbehind⟩)
    · exact .inl (.inl hplain)
    · exact .inr ⟨_, ⟨part, hpart, rfl⟩, hq⟩
    · exact .inl (.inr ⟨_, ⟨part, hpart, rfl⟩, hbehind⟩)
  · rintro ((hplain | ⟨_, ⟨part, hpart, rfl⟩, hbehind⟩) | ⟨_, ⟨part, hpart, rfl⟩, hq⟩)
    · exact .inl hplain
    · exact .inr ⟨part, hpart, .inr hbehind⟩
    · exact .inr ⟨part, hpart, .inl hq⟩

/-! ## §2. Statements about rows -/

/-- How a statement that changes or removes rows begins: `UPDATE target SET` or
    `DELETE FROM target`. -/
inductive Opening where
  | update (verb : Phrase ["UPDATE"]) (gap : Gap) (link : Spelling "SET")
  | delete (words : Phrase ["DELETE", "FROM"])

namespace Opening

/-- The opening as it is written. -/
def text (t : Target) : Opening → List Char
  | update verb gap link => verb.text ++ t.text ++ gap.text ++ link.text
  | delete words => words.text ++ t.text

/-- The opening in capitals with single blanks. -/
def normal (t : Target) : Opening → List Char
  | update _ _ _ => spaced ["UPDATE"] ++ (t.capitals ++ ' ' :: "SET".toList)
  | delete _ => spaced ["DELETE", "FROM"] ++ t.capitals

/-- What is told of the rows of a table that is there; `filtered` says whether a WHERE clause was
    found. -/
def told (t : Target) (filtered : Bool) : Opening → Prediction
  | update _ _ _ => .update (String.ofList t.capitals) true filtered
  | delete _ => .delete (String.ofList t.capitals) true filtered

end Opening

/-- A statement that changes or removes rows of a table.  Behind its opening neither the last word
    of it nor the name of the table goes on. -/
structure RowStatement where
  opening : Opening
  target : Target
  rest : Passage
  ends : (upper rest.text).head?.any isTargetChar = false

namespace RowStatement

variable (m : RowStatement)

/-- The statement with its quoted parts. -/
def passage : Passage := ⟨m.opening.text m.target ++ m.rest.plain, m.rest.more⟩

/-- The statement as it is written. -/
def text : List Char := m.passage.text

/-- What is told of it; `filtered` says whether a WHERE clause was found. -/
def told (filtered : Bool) : Prediction := m.opening.told m.target filtered

theorem text_eq : m.text = m.opening.text m.target ++ m.rest.text := List.append_assoc _ _ _

end RowStatement

/-! ## §3. Their normal form -/

section

variable (o : Opening) (t : Target)

theorem collapse_opening : collapse (upper (o.text t)) = o.normal t := by
  have hsolid := t.solid_capitals
  have hne := t.capitals_ne_nil
  cases o with
  | update verb gap link =>
    unfold Opening.text Opening.normal
    simp only [upper_append, link.upper_text, upper_gap, t.upper_text, List.append_assoc]
    rw [collapse_phrase (by decide) (head?_solid hsolid hne _), collapse_word_gap hsolid gap
      (by decide), collapse_solid (forall_of_all (by decide))]
  | delete words =>
    have hbehind := head?_solid hsolid hne []
    rw [List.append_nil] at hbehind
    unfold Opening.text Opening.normal
    rw [upper_append, t.upper_text, collapse_phrase (by decide) hbehind, collapse_solid hsolid]

theorem getLast?_opening : (upper (o.text t)).getLast?.any isBlank = false := by
  cases o with
  | update verb gap link =>
    unfold Opening.text
    rw [upper_append, link.upper_text]
    exact getLast?_solid (forall_of_all (by decide)) (by decide) _
  | delete words =>
    unfold Opening.text
    rw [upper_append]
    exact getLast?_solid t.solid_capitals t.capitals_ne_nil _

theorem head?_normal : (o.normal t).head?.any isBlank = false := by
  cases o with
  | update _ _ _ => exact head?_spaced (by decide) (head?_solid t.solid_capitals t.capitals_ne_nil _)
  | delete _ =>
    have hbehind := head?_solid t.solid_capitals t.capitals_ne_nil []
    rw [List.append_nil] at hbehind
    exact head?_spaced (by decide) hbehind

theorem normal_ne_nil : o.normal t ≠ [] := by
  cases o <;> exact List.cons_ne_nil _ _

end

/-- **How such a statement begins in capitals with single blanks.** -/
theorem normalise_text (m : RowStatement) : ∃ tail, tail.head?.any isTargetChar = false ∧
    normalise m.text = m.opening.normal m.target ++ tail := by
  have hblank : ∀ c, isBlank c = true → isTargetChar c = isTargetChar ' ' := by
    intro c hc
    rw [isTargetChar_of_isBlank hc]
    decide
  have hlast := getLast?_opening m.opening m.target
  have hnormal := getLast?_collapse hlast
  rw [collapse_opening] at hnormal
  have htrim := trim_around (normal_ne_nil m.opening m.target) (head?_normal m.opening m.target)
    hnormal [] (collapse (upper m.rest.text))
  -- trimming gets into what follows the opening only
  refine ⟨trimEnd (collapse (upper m.rest.text)), head?_any_trimEnd ?_, ?_⟩
  · rw [head?_collapse hblank]
    exact m.ends
  · rw [normalise, m.text_eq, upper_append, collapse_append (.inl hlast), collapse_opening]
    exact htrim

/-! ## §4. What is told of them -/

section

variable {t : Target} {tail : List Char} (htail : tail.head?.any isTargetChar = false)
include htail

theorem capture?_delete :
    deletePattern.capture? (spaced ["DELETE", "FROM"] ++ (t.capitals ++ tail))
      = some t.capitals := by
  have hbehind := head?_solid t.solid_capitals t.capitals_ne_nil tail
  unfold deletePattern
  rw [capture?_front, matchAt, step_all_phrase (by decide) hbehind, t.step_named htail rfl]
  rfl

/-- What an UPDATE has behind its target: a blank, and somewhere the word SET. -/
def assignment : List Pattern := [.one isBlank, .run 0 (· != '\n'), .word "SET"]

theorem spans_assignment (before : Option Char) :
    (all assignment).Spans ⟨before, ' ' :: ("SET".toList ++ tail)⟩ ⟨some 'T', tail⟩ := by
  have hword : tail.head?.any isWordChar = false := by
    cases tail with
    | nil => rfl
    | cons c rest => exact (Bool.or_eq_false_iff.1 htail).1
  refine ⟨⟨some ' ', "SET".toList ++ tail⟩, ⟨' ', by decide, rfl, rfl⟩,
    ⟨some ' ', "SET".toList ++ tail⟩, ⟨[], rfl, Nat.le_refl 0, passed_nil.2 rfl⟩,
    ⟨some 'T', tail⟩, ⟨_, ⟨?_, rfl⟩, ⟨some 'T', tail⟩, spans_text.2 ⟨rfl, rfl⟩, _, ⟨?_, rfl⟩, rfl⟩,
    rfl⟩
  · rw [Place.isWordEdge]
    exact show (isWordChar ' ' != isWordChar 'S') = true by decide
  · rw [Place.isWordEdge, hword]
    exact show (isWordChar 'T' != false) = true by decide

/-- Whichever word SET is found, the target stays as it is. -/
theorem step_assignment (total : Nat) (before : Option Char) (seen : List Char) :
    ∃ m : Match, (all assignment).step ⟨before, ' ' :: ("SET".toList ++ tail)⟩ seen
      (fun q seen => some ⟨total - q.ahead.length, seen⟩) = some m ∧ m.group = seen := by
  obtain ⟨m, hm⟩ := Option.isSome_iff_exists.1 (step_of_spans (all assignment)
    (fun q seen (_ : True) => show (some (Match.mk (total - q.ahead.length) seen)).isSome = true
      from rfl) seen (spans_assignment htail before) True.intro)
  refine ⟨m, hm, ?_⟩
  refine step_forall (P := fun m => m.group = seen) rfl (fun q m hq => ?_) hm
  rw [← Option.some.inj hq]

theorem capture?_update :
    updatePattern.capture? (spaced ["UPDATE"] ++ (t.capitals ++ ' ' :: ("SET".toList ++ tail)))
      = some t.capitals := by
  have hbehind := head?_solid t.solid_capitals t.capitals_ne_nil (' ' :: ("SET".toList ++ tail))
  have hend : (' ' :: ("SET".toList ++ tail)).head?.any isTargetChar = false :=
    show isTargetChar ' ' = false by decide
  unfold updatePattern
  rw [capture?_front, matchAt, step_all_phrase (by decide) hbehind]
  dsimp only
  obtain ⟨m, hm, hgroup⟩ := step_assignment htail
    (spaced ["UPDATE"] ++ (t.capitals ++ ' ' :: ("SET".toList ++ tail))).length
    (t.capitals.getLast?.or (some ' ')) t.capitals
  exact congrArg (Option.map Match.group) (t.step_named hend hm) |>.trans (congrArg some hgroup)

end

/-- **What is told of a statement about the rows of a table that is there**: a WHERE clause counts
    as found if the word stands in the statement, wherever it does. -/
theorem predictStatement_text (s : Snapshot) (m : RowStatement)
    (hs : ∃ table ∈ s.tables.names, m.target.Names table) :
    predictStatement s m.text = [m.told (decide (HoldsWhere m.text))] := by
  obtain ⟨tail, htail, hnormal⟩ := normalise_text m
  have hthere := (m.target.hasCapitals_iff s).2 hs
  -- which words a text has does not depend on its blanks
  have hfiltered : wherePattern.occurs (m.opening.normal m.target ++ tail)
      = decide (HoldsWhere m.text) := by
    rw [Bool.eq_iff_iff, decide_eq_true_iff, wherePattern, occurs_word_iff (by decide)
      (forall_of_all (by decide)), ← hnormal, words_normalise]
    exact Iff.rfl
  unfold predictStatement RowStatement.told
  rw [hnormal, ← hfiltered]
  cases m.opening with
  | update verb gap link =>
    have hstatement : Opening.normal m.target (.update verb gap link) ++ tail
        = spaced ["UPDATE"] ++ (m.target.capitals ++ ' ' :: ("SET".toList ++ tail)) := by
      unfold Opening.normal
      simp only [List.append_assoc, List.cons_append]
    rw [hstatement, predictNormal_update s (capture?_update htail), hthere]
    rfl
  | delete words =>
    have hstatement : Opening.normal m.target (.delete words) ++ tail
        = spaced ["DELETE", "FROM"] ++ (m.target.capitals ++ tail) := List.append_assoc _ _ _
    rw [hstatement, predictNormal_delete s (capture?_delete htail), hthere]
    rfl

/-! ## §5. The warning -/

/-- The warning that all rows of the table are concerned. -/
def RowStatement.warning (m : RowStatement) : String := (m.told false).line

theorem head?_line {a b : String} {c : Char} (h : a.toList.head? = some c) :
    (a ++ b).toList.head? = some c := by
  rw [String.toList_append, List.head?_append, h]
  rfl

theorem ne_of_head? {a b : String} {c d : Char} (ha : a.toList.head? = some c)
    (hb : b.toList.head? = some d) (hcd : c ≠ d) : a ≠ b := by
  rintro rfl
  exact hcd (Option.some.inj (ha.symm.trans hb))

theorem line_update (t : String) :
    (Prediction.update t true true).line ≠ (Prediction.update t true false).line := by
  have htrue : (Prediction.update t true true).line
      = "🟡 UPDATE will modify matching records in " ++ ticked t ++ "." := rfl
  have hfalse : (Prediction.update t true false).line
      = "⚠️ UPDATE in " ++ ticked t ++ " has no WHERE: all rows would be affected." := rfl
  rw [htrue, hfalse]
  exact ne_of_head? (c := '🟡') (d := '⚠') (head?_line (head?_line (by simp)))
    (head?_line (head?_line (by simp))) (by decide)

theorem line_delete (t : String) :
    (Prediction.delete t true true).line ≠ (Prediction.delete t true false).line := by
  have htrue : (Prediction.delete t true true).line
      = "🟠 DELETE will remove matching rows from " ++ ticked t ++ "." := rfl
  have hfalse : (Prediction.delete t true false).line
      = "⚠️ DELETE without WHERE: all rows in " ++ ticked t ++ " will be deleted." := rfl
  rw [htrue, hfalse]
  exact ne_of_head? (c := '🟠') (d := '⚠') (head?_line (head?_line (by simp)))
    (head?_line (head?_line (by simp))) (by decide)

/-- The warning is told from the other line by its sign in front. -/
theorem line_told_true (m : RowStatement) : (m.told true).line ≠ m.warning := by
  unfold RowStatement.warning RowStatement.told
  cases m.opening with
  | update _ _ _ => exact line_update _
  | delete _ => exact line_delete _

/-- **When the warning comes**: one line is told of the statement, and it is the warning if and only
    if the word WHERE stands in no part of it.  So where no plain part has the word, it is the
    warning unless a quoted part has it. -/
theorem warned_unless_quoted (s : Snapshot) (m : RowStatement)
    (hs : ∃ table ∈ s.tables.names, m.target.Names table) {script : List Char}
    (hscript : fragments script = [m.text]) :
    let lines := (predict s script).map Prediction.line
    lines.length = 1 ∧
      (lines = [m.warning] ↔ (∀ plain ∈ m.passage.plains, ¬ HoldsWhere plain) ∧
        ∀ q ∈ m.passage.quotations, ¬ HoldsWhere q.text) := by
  intro lines
  have hlines : lines = [(m.told (decide (HoldsWhere m.text))).line] := by
    show ((fragments script).flatMap (predictStatement s)).map Prediction.line = _
    rw [hscript, List.flatMap_singleton, predictStatement_text s m hs]
    rfl
  have hwarned : lines = [m.warning] ↔ ¬ HoldsWhere m.text := by
    rw [hlines]
    by_cases hwhere : HoldsWhere m.text
    · rw [decide_eq_true hwhere]
      exact iff_of_false (fun h => line_told_true m (List.cons.inj h).1) (not_not_intro hwhere)
    · rw [decide_eq_false hwhere]
      exact iff_of_true rfl hwhere
  -- a word stands in the statement if it stands in one of the parts
  refine ⟨by rw [hlines]; rfl, ?_⟩
  rw [hwarned, RowStatement.text, holdsWhere_passage, not_or]
  simp only [not_exists, not_and]

/-- A table of customers, with one column. -/
def customers : Snapshot := .ofRows "public" "" [⟨"customers", "id", "integer", false, ""⟩]

/-- A statement that changes all of them; the word stands in what they are changed to. -/
def noted : RowStatement where
  opening := .update
    (.word ⟨"Update".toList, by decide⟩ oneSpace .empty)
    lineBreak ⟨"set".toList, by decide⟩
  target := {
    schema := none
    name := "customers".toList
    isWord_schema := nofun
    isWord_name := by decide
    name_ne_nil := by decide
    isOther := fun _ => by decide }
  rest := ⟨" note = ".toList, [(.literal "where".toList, [])]⟩
  ends := by decide

/-- The literal hides that all customers are changed. -/
theorem literal_hides_warning :
    let script := "Update customers\nset note = 'where'".toList
    let lines := (predict customers script).map Prediction.line
    fragments script = [noted.text] ∧ (∀ plain ∈ noted.passage.plains, ¬ HoldsWhere plain) ∧
      lines.length = 1 ∧ lines ≠ [noted.warning] := by
  have hthere : ∃ table ∈ customers.tables.names, noted.target.Names table := by decide +kernel
  have hscript : fragments "Update customers\nset note = 'where'".toList = [noted.text] := by
    decide +kernel
  have hplain : ∀ plain ∈ noted.passage.plains, ¬ HoldsWhere plain := by decide +kernel
  have hquoted : ¬ ∀ q ∈ noted.passage.quotations, ¬ HoldsWhere q.text := by
    intro hnone
    have hholds : HoldsWhere (Quotation.literal "where".toList).text := by decide +kernel
    exact hnone _ List.mem_cons_self hholds
  obtain ⟨hlength, hwarned⟩ := warned_unless_quoted customers noted hthere hscript
  exact ⟨hscript, hplain, hlength, fun hwarning => hquoted (hwarned.1 hwarning).2⟩

end ScriptGate.Schema
