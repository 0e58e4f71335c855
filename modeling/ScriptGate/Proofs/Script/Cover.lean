/-
  ScriptGate.Proofs.Script.Cover — a script without comments, by its statements.

  Where no comment opens, the scanner keeps every character but the semicolons that close a
  fragment, and a fragment loses the blanks at its ends.  So the statements of the script lie in it
  side by side, with blanks and semicolons between them and nothing else.
  Main statements:
    - `written_append`    — what is written and what lies beyond it make up the text;
    - `exists_covers`     — a script without comments is covered by its statements;
    - `fragments_cover`   — nothing of it is lost, doubled or moved, and no statement is blank at
                            an end.
-/
import ScriptGate.Proofs.Script.Canonical

namespace ScriptGate.Script

open ScriptGate.Text

/-! ## §1. Texts without comments -/

/-- No comment opens anywhere in the text, not even in a literal. -/
structure CommentFree (text : List Char) : Prop where
  line : ¬ ['-', '-'] <:+: text
  bracket : ¬ openingBracket <:+: text

theorem CommentFree.of_infix {text part : List Char} (h : CommentFree text)
    (hpart : part <:+: text) : CommentFree part where
  line hin := h.line (hin.trans hpart)
  bracket hin := h.bracket (hin.trans hpart)

theorem opensComment_of_commentFree {c : Char} {ahead : List Char}
    (h : CommentFree (c :: ahead)) : opensComment c ahead = false := by
  rw [Bool.eq_false_iff]
  intro hopens
  rw [opensComment, Bool.or_eq_true, Bool.and_eq_true, Bool.and_eq_true, beq_iff_eq, beq_iff_eq,
    beq_iff_eq, beq_iff_eq] at hopens
  rcases hopens with ⟨rfl, hhead⟩ | ⟨rfl, hhead⟩
  · obtain ⟨tail, rfl⟩ := List.head?_eq_some_iff.1 hhead
    exact h.line ⟨[], tail, rfl⟩
  · obtain ⟨tail, rfl⟩ := List.head?_eq_some_iff.1 hhead
    exact h.bracket ⟨[], tail, rfl⟩

/-- Where no comment opens, the open fragment takes on every character that does not close it. -/
theorem takes_of_commentFree {s : Scanner} (hs : s.mode.isPlain = true) {c : Char}
    {ahead : List Char} (h : CommentFree (c :: ahead)) : s.takes c ahead = some c := by
  cases htop : s.mode.isTop with
  | true => exact (takes_top_eq_some htop).2 ⟨opensComment_of_commentFree h, rfl⟩
  | false => exact takes_inside hs htop c ahead

/-- The semicolon that closes the open fragment and the text behind it. -/
def closing (s : Scanner) (input : List Char) : List Char :=
  match beyond s input with
  | none => []
  | some rest => ';' :: rest

/-- **What is written and what lies beyond it make up the text**, if no comment opens in it. -/
theorem written_append {input : List Char} :
    ∀ {s : Scanner}, s.mode.isPlain = true → CommentFree input →
      written s input ++ closing s input = input := by
  induction input with
  | nil => exact fun _ _ => rfl
  | cons c ahead ih =>
    intro s hs h
    unfold closing at ih ⊢
    cases hcuts : s.cutsAt c with
    | true =>
      -- only a semicolon closes the open fragment, and the rest lies beyond it
      obtain ⟨_, rfl⟩ := cutsAt_eq_true_iff.1 hcuts
      rw [written, beyond, hcuts]
      rfl
    | false =>
      have htakes := takes_of_commentFree hs h
      have hahead : CommentFree ahead := h.of_infix (List.suffix_cons c ahead).isInfix
      rw [written_cons hcuts, beyond_cons hcuts, htakes]
      exact congrArg (c :: ·) (ih (isPlain_read hs hcuts htakes) hahead)

/-! ## §2. Covers -/

/-- May it stand between two statements? -/
def isGapChar (c : Char) : Bool := isBlank c || c == ';'

/-- Nothing but blanks and semicolons? -/
def isGap (text : List Char) : Bool := text.all isGapChar

theorem isGap_append (front back : List Char) :
    isGap (front ++ back) = (isGap front && isGap back) := List.all_append

theorem isGap_of_blank {text : List Char} (h : text.all isBlank = true) : isGap text = true := by
  rw [isGap, List.all_eq_true]
  intro c hc
  rw [isGapChar, List.all_eq_true.1 h c hc, Bool.true_or]

theorem getLast?_gap {text gap : List Char} (hgap : isGap gap = true)
    (hnil : gap = [] → text = []) : (text ++ gap).getLast?.all isGapChar = true := by
  rw [List.getLast?_append]
  cases hlast : gap.getLast? with
  | none =>
    rw [hnil (List.getLast?_eq_none_iff.1 hlast)]
    rfl
  | some c => exact List.all_eq_true.1 hgap c (List.mem_of_getLast? hlast)

theorem head?_gap {gap text : List Char} (hgap : isGap gap = true)
    (hnil : gap = [] → text = []) : (gap ++ text).head?.all isGapChar = true := by
  cases gap with
  | nil =>
    rw [hnil rfl]
    rfl
  | cons c rest => exact List.all_eq_true.1 hgap c List.mem_cons_self

/-- A statement and the gap behind it. -/
structure Stretch where
  statement : List Char
  gap : List Char

/-- A stretch as it is written. -/
def Stretch.text (s : Stretch) : List Char := s.statement ++ s.gap

/-- The text is a gap and a row of stretches, one for each of the statements; wherever another
    stretch follows there is a semicolon in the gap. -/
structure Covers (statements : List (List Char)) (front : List Char) (stretches : List Stretch)
    (text : List Char) : Prop where
  text : text = front ++ stretches.flatMap Stretch.text
  statements : stretches.map Stretch.statement = statements
  front : isGap front = true
  gaps : ∀ s ∈ stretches, isGap s.gap = true
  apart : ∀ s ∈ stretches.dropLast, ';' ∈ s.gap

/-- A text of blanks only is a gap, and any other is a statement between two of them: so a text in
    front of a cover goes into it. -/
theorem Covers.behind {statements : List (List Char)} {front : List Char}
    {stretches : List Stretch} {rest : List Char} (h : Covers statements front stretches rest)
    (hfront : stretches ≠ [] → ';' ∈ front) (text : List Char) :
    ∃ front' stretches', Covers (whole text ++ statements) front' stretches' (text ++ rest) := by
  obtain ⟨before, behind, htext, hbefore, hbehind⟩ := exists_trim text
  have hgap : isGap (behind ++ front) = true := by
    rw [isGap_append, isGap_of_blank hbehind, h.front]
    rfl
  unfold whole
  split
  -- a blank text goes into the gap in front
  · next hempty =>
    refine ⟨before ++ (behind ++ front), stretches, ?_, h.statements, ?_, h.gaps, h.apart⟩
    · rw [htext, List.isEmpty_iff.1 hempty, List.append_nil, h.text]
      simp only [List.append_assoc]
    · rw [isGap_append, isGap_of_blank hbefore, hgap]
      rfl
  · refine ⟨before, ⟨trim text, behind ++ front⟩ :: stretches, ?_, ?_, isGap_of_blank hbefore,
      List.forall_mem_cons.2 ⟨hgap, h.gaps⟩, ?_⟩
    · rw [List.flatMap_cons, Stretch.text, h.text]
      -- the text is its trimmed form between two runs of blanks
      calc text ++ (front ++ stretches.flatMap Stretch.text)
          = before ++ trim text ++ behind ++ (front ++ stretches.flatMap Stretch.text) := by
            rw [← htext]
        _ = _ := by simp only [List.append_assoc]
    · rw [List.map_cons, h.statements]
      rfl
    · cases hstretches : stretches with
      | nil => exact fun s hs => absurd hs List.not_mem_nil
      | cons next others =>
        have hsemicolon : ';' ∈ front := hfront (by rw [hstretches]; exact List.cons_ne_nil _ _)
        rw [List.dropLast_cons_cons, List.forall_mem_cons, ← hstretches]
        exact ⟨List.mem_append_right behind hsemicolon, h.apart⟩

/-- **A script without comments is covered by its statements.** -/
theorem exists_covers {script : List Char} (h : CommentFree script) :
    ∃ front stretches, Covers (fragments script) front stretches script := by
  induction script using script_induction with
  | step script ih =>
    have hscript : written .start script ++ closing .start script = script := written_append rfl h
    -- behind the first fragment there is nothing, or a semicolon and a script that is covered
    obtain ⟨others, front, stretches, hfragments, hcovers, hfront⟩ :
        ∃ others front stretches, fragments script = whole (written .start script) ++ others ∧
          Covers others front stretches (closing .start script) ∧
          (stretches ≠ [] → ';' ∈ front) := by
      rw [fragments_first script]
      unfold closing at hscript ⊢
      cases hbeyond : beyond .start script with
      | none =>
        refine ⟨[], [], [], rfl, ⟨rfl, rfl, rfl, ?_, ?_⟩, fun hne => absurd rfl hne⟩ <;>
          exact fun s hs => absurd hs List.not_mem_nil
      | some rest =>
        rw [hbeyond] at hscript
        have hrest : rest <:+: script := ⟨written .start script ++ [';'], [], by
          rw [List.append_nil, List.append_assoc]
          exact hscript⟩
        obtain ⟨front, stretches, hcovers⟩ := ih rest hbeyond (h.of_infix hrest)
        exact ⟨fragments rest, ';' :: front, stretches, rfl,
          ⟨congrArg (';' :: ·) hcovers.text, hcovers.statements, hcovers.front, hcovers.gaps,
            hcovers.apart⟩, fun _ => List.mem_cons_self⟩
    obtain ⟨front', stretches', hcovers'⟩ := hcovers.behind hfront (written .start script)
    rw [← hfragments, hscript] at hcovers'
    exact ⟨front', stretches', hcovers'⟩

/-- A statement of a cover stands between the ends of the text and characters of gaps. -/
theorem Covers.around {statements : List (List Char)} {front : List Char}
    {stretches : List Stretch} {text : List Char} (h : Covers statements front stretches text)
    {f : List Char} (hf : f ∈ statements) :
    ∃ left right, text = left ++ f ++ right ∧ left.getLast?.all isGapChar = true ∧
      right.head?.all isGapChar = true := by
  rw [← h.statements, List.mem_map] at hf
  obtain ⟨s, hs, rfl⟩ := hf
  obtain ⟨before, behind, rfl⟩ := List.append_of_mem hs
  refine ⟨front ++ before.flatMap Stretch.text, s.gap ++ behind.flatMap Stretch.text, ?_, ?_, ?_⟩
  · rw [h.text, List.flatMap_append, List.flatMap_cons, Stretch.text]
    simp only [List.append_assoc]
  · rcases List.eq_nil_or_concat before with rfl | ⟨init, last, hbefore⟩
    · rw [List.flatMap_nil, List.append_nil]
      show ([] ++ front).getLast?.all isGapChar = true
      exact getLast?_gap h.front fun _ => rfl
    · rw [List.concat_eq_append] at hbefore
      subst hbefore
      -- the statement in front of it has a semicolon behind it
      have hlast : ';' ∈ last.gap := by
        refine h.apart last ?_
        rw [List.dropLast_append_cons]
        exact List.mem_append_left _ List.mem_concat_self
      have hgap : isGap last.gap = true :=
        h.gaps last (List.mem_append_left _ List.mem_concat_self)
      rw [List.flatMap_append, List.flatMap_singleton, Stretch.text, ← List.append_assoc,
        ← List.append_assoc]
      exact getLast?_gap hgap fun hnil => absurd (hnil ▸ hlast) List.not_mem_nil
  · have hgap : isGap s.gap = true := h.gaps s (List.mem_append_right _ List.mem_cons_self)
    refine head?_gap hgap ?_
    cases behind with
    | nil => exact fun _ => rfl
    | cons next others =>
      have hs : ';' ∈ s.gap := by
        refine h.apart s ?_
        rw [List.dropLast_append_cons, List.dropLast_cons_cons]
        exact List.mem_append_right _ List.mem_cons_self
      exact fun hnil => absurd (hnil ▸ hs) List.not_mem_nil

/-! ## §3. Statements -/

/-- No statement is empty, and none is blank at an end. -/
theorem ends_of_mem {script f : List Char} (h : f ∈ fragments script) :
    f ≠ [] ∧ f.head?.any isBlank = false ∧ f.getLast?.any isBlank = false := by
  obtain ⟨part, rfl, hne⟩ := exists_of_mem h
  exact ⟨hne, trim_ends _⟩

/-- **Nothing of a script without comments is lost, doubled or moved.**  The script is its
    statements in their order with gaps of blanks and semicolons around them, there is a semicolon
    between any two of them, and none is empty or blank at an end. -/
theorem fragments_cover {script : List Char} (h : CommentFree script) :
    (∃ front stretches, Covers (fragments script) front stretches script) ∧
      ∀ f ∈ fragments script,
        f ≠ [] ∧ f.head?.any isBlank = false ∧ f.getLast?.any isBlank = false :=
  ⟨exists_covers h, fun _ hf => ends_of_mem hf⟩

/-- A script of an escape string, a dollar quote, statements without text and a literal that is not
    closed. -/
def cluttered : List Char := " ;E'\\';';; $é$;$é$\n;'a; ".toList

/-- The semicolons in its tokens are kept, and the others are the gaps between its statements. -/
theorem cluttered_cover :
    CommentFree cluttered ∧
      fragments cluttered
        = ["E'\\';'".toList, "$é$;$é$".toList, "'a;".toList] ∧
      (∃ front stretches, Covers (fragments cluttered) front stretches cluttered) ∧
      ∀ f ∈ fragments cluttered,
        f ≠ [] ∧ f.head?.any isBlank = false ∧ f.getLast?.any isBlank = false := by
  have hfree : CommentFree cluttered := ⟨by decide +kernel, by decide +kernel⟩
  exact ⟨hfree, by decide +kernel, fragments_cover hfree⟩

end ScriptGate.Script
