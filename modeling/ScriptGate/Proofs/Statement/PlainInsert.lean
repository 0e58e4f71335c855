/-
  ScriptGate.Proofs.Statement.PlainInsert — inserted rows, counted by their words.

  An INSERT with rows of values that does not parse is judged by its text: it names its columns if
  a parenthesis opens behind the table, and from the first VALUES on it has one row more than there
  are gaps between rows, a gap being a closing parenthesis, a comma and an opening one.  Where no
  row closes a parenthesis within itself, the gaps are just those between the rows, and the text
  tells what the parser would have told.
  Main statements:
    - `insertColumns_occurs`       — when the columns are taken for named;
    - `opensGap_of_isSome`         — where a gap between rows is found;
    - `length_go_rows`             — there is a gap behind each row but the last;
    - `not_opensGap_front`         — no gap begins in front of VALUES;
    - `ofText_plainInsert`         — the shape of an INSERT, by its text and by the parser.
-/
import ScriptGate.Proofs.Schema.NewColumn
import ScriptGate.Proofs.Text.Reading
import ScriptGate.Proofs.Text.Search
import ScriptGate.Statement.Reading

namespace ScriptGate.Statement

open ScriptGate.Schema ScriptGate.Script ScriptGate.Text ScriptGate.Text.Pattern

/-! ## §1. Inserts -/

/-- A row of values: what stands between its parentheses closes none. -/
structure ValueRow where
  values : List Char
  unclosed : ')' ∉ values

/-- The row as it is written. -/
def ValueRow.text (r : ValueRow) : List Char := '(' :: r.values ++ [')']

/-- Rows with commas between them, as they are written. -/
def rowsText (r : ValueRow) : List (Comma × ValueRow) → List Char
  | [] => r.text
  | (comma, next) :: rest => r.text ++ (comma.text ++ rowsText next rest)

/-- The names of columns in parentheses, with the blanks around them. -/
structure ColumnList where
  left : List Char
  names : List Char
  right : List Char
  isBlank_left : left.all isBlank = true
  isBlank_right : right.all isBlank = true

/-- What stands between the table and VALUES: blanks, or the names of columns. -/
inductive Heading where
  | bare (gap : Gap)
  | columns (list : ColumnList)

namespace Heading

/-- The heading as it is written. -/
def text : Heading → List Char
  | bare gap => gap.text
  | columns list => list.left ++ ('(' :: list.names ++ ')' :: list.right)

/-- Are the columns named? -/
def isExplicit : Heading → Bool
  | bare _ => false
  | columns _ => true

/-- The names of the columns as they are written. -/
def names : Heading → List Char
  | bare _ => []
  | columns list => list.names

end Heading

/-- The word in front of the rows. -/
def valuesWord : List Char := "VALUES".toList

/-- `INSERT INTO table VALUES (…), …` in capitals, with the names of columns or without. -/
structure PlainInsert where
  /-- in front of `INSERT` -/
  lead : List Char
  isBlank_lead : lead.all isBlank = true
  /-- behind `INSERT` -/
  gap₁ : Gap
  /-- behind `INTO` -/
  gap₂ : Gap
  table : List Char
  table_ne_nil : table ≠ []
  isTableName : table.all isTableNameChar = true
  heading : Heading
  /-- behind `VALUES` -/
  behind : List Char
  isBlank_behind : behind.all isBlank = true
  /-- the first row -/
  first : ValueRow
  /-- the other rows, each behind its comma -/
  more : List (Comma × ValueRow)
  /-- behind the last row -/
  trail : List Char
  isBlank_trail : trail.all isBlank = true

namespace PlainInsert

/-- The statement up to the table. -/
def opening (m : PlainInsert) : List Char :=
  m.lead ++ ("INSERT".toList ++ (m.gap₁.text ++ ("INTO".toList ++ (m.gap₂.text ++ m.table))))

/-- What stands in front of VALUES. -/
def front (m : PlainInsert) : List Char := m.opening ++ m.heading.text

/-- VALUES and what stands behind it. -/
def back (m : PlainInsert) : List Char :=
  valuesWord ++ (m.behind ++ (rowsText m.first m.more ++ m.trail))

/-- The statement. -/
def text (m : PlainInsert) : List Char := m.front ++ m.back

/-- How many rows there are. -/
def rowCount (m : PlainInsert) : Nat := m.more.length + 1

end PlainInsert

/-! ## §2. The columns -/

/-- No blank is part of a table name. -/
theorem isTableNameChar_of_isBlank {c : Char} (h : isBlank c = true) :
    isTableNameChar c = false := by
  have hdot : c ≠ '.' := ne_of_isBlank h (by decide)
  rw [isTableNameChar, isWordChar_of_isBlank h, beq_eq_false_iff_ne.2 hdot, Bool.or_false]

theorem isBlank_of_isTableNameChar {c : Char} (h : isTableNameChar c = true) :
    isBlank c = false := by
  rw [Bool.eq_false_iff]
  intro hblank
  rw [isTableNameChar_of_isBlank hblank] at h
  exact Bool.noConfusion h

/-- What opens the names of columns, behind the table. -/
def columnsOpening : List Pattern := [.blanksOrNone, .text "("]

theorem head?_of_paren {p q : Place} (h : (all [.text "("]).Spans p q) :
    p.ahead.head?.any isBlank = false := by
  rw [head?_of_spans_text (c := '(') rfl h]
  decide

theorem head?_of_columnsOpening {p q : Place} (h : (all columnsOpening).Spans p q) :
    p.ahead.head?.any isTableNameChar = false := by
  obtain ⟨r, ⟨taken, hall, -, hpassed⟩, hparen⟩ := spans_all_cons.1 h
  cases taken with
  | nil =>
    obtain rfl : p = r := passed_nil.1 hpassed
    rw [head?_of_spans_text (c := '(') rfl hparen]
    decide
  | cons c rest =>
    rw [List.all_cons, Bool.and_eq_true] at hall
    rw [hpassed.ahead]
    exact isTableNameChar_of_isBlank hall.1

theorem head?_of_table {p q : Place}
    (h : (all (.run 1 isTableNameChar :: columnsOpening)).Spans p q) :
    p.ahead.head?.any isBlank = false := by
  obtain ⟨r, ⟨taken, hall, hleast, hpassed⟩, -⟩ := spans_all_cons.1 h
  obtain ⟨c, rest, rfl⟩ := List.exists_cons_of_length_pos hleast
  rw [List.all_cons, Bool.and_eq_true] at hall
  rw [hpassed.ahead]
  exact isBlank_of_isTableNameChar hall.1

/-- The table ends in front of the heading. -/
theorem Heading.head?_text (heading : Heading) (rest : List Char) :
    (heading.text ++ rest).head?.any isTableNameChar = false := by
  cases heading with
  | bare gap => exact isTableNameChar_of_isBlank gap.isBlank_first
  | columns list =>
    show ((list.left ++ ('(' :: list.names ++ ')' :: list.right)) ++ rest).head?.any _ = false
    cases hleft : list.left with
    | nil => exact show isTableNameChar '(' = false by decide
    | cons c blanks =>
      have hall := list.isBlank_left
      rw [hleft, List.all_cons, Bool.and_eq_true] at hall
      exact isTableNameChar_of_isBlank hall.1

/-- Behind the table, the columns are named if a parenthesis opens there. -/
theorem columnsOpening_heading (heading : Heading) (before : Option Char) (rest : List Char) :
    (∃ q, (all columnsOpening).Spans ⟨before, heading.text ++ (valuesWord ++ rest)⟩ q) ↔
      heading.isExplicit = true := by
  cases heading with
  | bare gap =>
    refine iff_of_false ?_ Bool.false_ne_true
    intro h
    obtain ⟨q, hspans⟩ := h
    -- behind the blanks stands the first letter of VALUES
    have hletter : (valuesWord ++ rest).head? = some 'V' := rfl
    have hrest : (valuesWord ++ rest).head?.any isBlank = false := by
      rw [hletter]
      decide
    have hbehind := (spans_run_append (isBlank_gap gap) (Nat.zero_le _) hrest head?_of_paren).1
      hspans
    have hparen := head?_of_spans_text (c := '(') rfl hbehind
    exact absurd (Option.some.inj (hletter.symm.trans hparen)) (by decide)
  | columns list =>
    refine iff_of_true ?_ rfl
    have hleft := List.all_eq_true.1 list.isBlank_left
    let names := list.names ++ (')' :: (list.right ++ (valuesWord ++ rest)))
    have htext : Heading.text (.columns list) ++ (valuesWord ++ rest)
        = list.left ++ ("(".toList ++ names) := by
      show (list.left ++ ('(' :: list.names ++ ')' :: list.right)) ++ _ = _
      simp only [names, List.append_assoc, List.cons_append]
      rfl
    have hparen : ("(".toList ++ names).head?.any isBlank = false :=
      show isBlank '(' = false by decide
    refine ⟨⟨"(".toList.getLast?.or (list.left.getLast?.or before), names⟩, ?_⟩
    rw [htext]
    exact (spans_run_append hleft (Nat.zero_le _) hparen head?_of_paren).2
      (spans_text_append.2 rfl)

namespace PlainInsert

variable (m : PlainInsert)

/-- Each part of the pattern for named columns has one place in the text where it can stand. -/
theorem spans_insertColumns : ∃ before, ∀ q,
    (all ([.blanksOrNone, .text "INSERT", .blanks, .text "INTO", .blanks,
      .run 1 isTableNameChar] ++ columnsOpening)).Spans ⟨none, m.text⟩ q ↔
    (all columnsOpening).Spans ⟨before, m.heading.text ++ m.back⟩ q := by
  have htext : m.text = m.lead ++ ("INSERT".toList ++ (m.gap₁.text ++ ("INTO".toList ++
      (m.gap₂.text ++ (m.table ++ (m.heading.text ++ m.back)))))) := by
    unfold text front opening
    simp only [List.append_assoc]
  have hlead := List.all_eq_true.1 m.isBlank_lead
  have htable := List.all_eq_true.1 m.isTableName
  have hgap : ∀ gap : Gap, 1 ≤ gap.text.length := fun gap => Nat.succ_le_succ (Nat.zero_le _)
  -- a run of blanks ends where the next word begins, as no word begins with a blank
  have hletter : ∀ {w : String} {parts : List Pattern} {p q : Place}, w.toList.head? = some 'I' →
      (all (.text w :: parts)).Spans p q → p.ahead.head?.any isBlank = false := by
    intro w parts p q hw h
    rw [head?_of_spans_text hw h]
    decide
  have hinsert : ∀ rest, ("INSERT".toList ++ rest).head?.any isBlank = false :=
    fun _ => show isBlank 'I' = false by decide
  have hinto : ∀ rest, ("INTO".toList ++ rest).head?.any isBlank = false :=
    fun _ => show isBlank 'I' = false by decide
  have hname : ∀ rest, (m.table ++ rest).head?.any isBlank = false := by
    intro rest
    obtain ⟨c, more, hcons⟩ := List.exists_cons_of_ne_nil m.table_ne_nil
    rw [hcons]
    exact isBlank_of_isTableNameChar (htable c (hcons ▸ List.mem_cons_self))
  have hheading := m.heading.head?_text m.back
  refine ⟨?before, fun q => ?chain⟩
  case chain =>
    rw [htext]
    show (all (.run 0 isBlank :: .text "INSERT" :: .run 1 isBlank :: .text "INTO" ::
      .run 1 isBlank :: .run 1 isTableNameChar :: columnsOpening)).Spans _ q ↔ _
    rw [spans_run_append hlead (Nat.zero_le _) (hinsert _) (hletter rfl), spans_text_append,
      spans_run_append (isBlank_gap _) (hgap _) (hinto _) (hletter rfl), spans_text_append,
      spans_run_append (isBlank_gap _) (hgap _) (hname _) head?_of_table,
      spans_run_append htable (List.length_pos_iff.2 m.table_ne_nil) hheading
        head?_of_columnsOpening]

/-- **When the columns are taken for named.** -/
theorem insertColumns_occurs : insertColumnsPattern.occurs m.text = m.heading.isExplicit := by
  obtain ⟨before, hspans⟩ := m.spans_insertColumns
  rw [Bool.eq_iff_iff, ← columnsOpening_heading m.heading before
    (m.behind ++ (rowsText m.first m.more ++ m.trail))]
  unfold occurs insertColumnsPattern
  rw [find?_front, isSome_matchAt]
  exact exists_congr hspans

end PlainInsert

/-! ## §3. The rows -/

/-- A gap between rows begins here. -/
def OpensGap (ahead : List Char) : Prop :=
  ∃ (comma : Comma) (rest : List Char), ahead = ')' :: (comma.text ++ '(' :: rest)

/-- **Where a gap between rows is found.** -/
theorem opensGap_of_isSome {p : Place} (h : (rowGapPattern.matchAt p).isSome = true) :
    OpensGap p.ahead := by
  obtain ⟨q, hspans⟩ := (isSome_matchAt _ p).1 h
  obtain ⟨r₁, hclose, r₂, ⟨left, hleft, -, hpassed₂⟩, r₃, hcomma, r₄, ⟨right, hright, -, hpassed₄⟩,
    r₅, hopen, -⟩ := hspans
  refine ⟨⟨left, right, hleft, hright⟩, r₅.ahead, ?_⟩
  rw [(spans_text.1 hclose).ahead, hpassed₂.ahead, (spans_text.1 hcomma).ahead, hpassed₄.ahead,
    (spans_text.1 hopen).ahead]
  show ')' :: (left ++ ',' :: (right ++ '(' :: r₅.ahead)) = _
  rw [Comma.text, List.append_assoc]
  rfl

theorem matchAt_eq_none_of_not_opensGap {p : Place} (h : ¬ OpensGap p.ahead) :
    rowGapPattern.matchAt p = none := by
  rw [← Option.not_isSome_iff_eq_none]
  exact fun hsome => h (opensGap_of_isSome hsome)

/-- The match at a gap reaches to the parenthesis that opens the next row. -/
theorem matchAt_rowGap (comma : Comma) (before : Option Char) (rest : List Char) :
    rowGapPattern.matchAt ⟨before, (')' :: comma.text ++ ['(']) ++ rest⟩
      = some ⟨(')' :: comma.text ++ ['(']).length, []⟩ := by
  have hleft := List.all_eq_true.1 comma.isBlank_left
  have hright := List.all_eq_true.1 comma.isBlank_right
  have hahead : (')' :: comma.text ++ ['(']) ++ rest
      = ")".toList ++ (comma.left ++ (",".toList ++ (comma.right ++ ("(".toList ++ rest)))) := by
    unfold Comma.text
    simp only [List.append_assoc, List.cons_append, List.nil_append]
    rfl
  have hlength : ((')' :: comma.text ++ ['(']) ++ rest).length - rest.length
      = (')' :: comma.text ++ ['(']).length := by
    rw [List.length_append, Nat.add_sub_cancel]
  unfold matchAt
  generalize hk : (fun (q : Place) seen => some (Match.mk
    ((Place.mk before ((')' :: comma.text ++ ['(']) ++ rest)).ahead.length - q.ahead.length) seen))
    = k
  have hcomma : (",".toList ++ (comma.right ++ ("(".toList ++ rest))).head?.any isBlank = false :=
    show isBlank ',' = false by decide
  have hopen : ("(".toList ++ rest).head?.any isBlank = false :=
    show isBlank '(' = false by decide
  have hend : ∀ b, k ⟨b, rest⟩ [] = some ⟨(')' :: comma.text ++ ['(']).length, []⟩ := by
    intro b
    rw [← hk, ← hlength]
  -- each part of the pattern takes the part of the text that it stands for
  rw [hahead]
  show (text ")").step _ [] (fun p seen => (all [.blanksOrNone, .text ",", .blanksOrNone,
    .text "("]).step p seen k) = _
  rw [step_text]
  refine longest_of_some hcomma hleft (Nat.zero_le _) ?_
  show (text ",").step _ [] (fun p seen => (all [.blanksOrNone, .text "("]).step p seen k) = _
  rw [step_text]
  refine longest_of_some hopen hright (Nat.zero_le _) ?_
  show (text "(").step _ [] k = _
  rw [step_text]
  exact hend _

section

variable {before : Option Char}

/-- No gap begins in a text that closes no parenthesis. -/
theorem go_unclosed {stretch : List Char} (h : ')' ∉ stretch) (rest : List Char) :
    findAll.go rowGapPattern 0 before (stretch ++ rest)
      = findAll.go rowGapPattern 0 (stretch.getLast?.or before) rest := by
  refine go_skip fun x y hxy hy => matchAt_eq_none_of_not_opensGap ?_
  intro hgap
  obtain ⟨comma, behind, hahead⟩ := hgap
  obtain ⟨c, more, rfl⟩ := List.exists_cons_of_ne_nil hy
  obtain ⟨rfl, -⟩ := List.cons.inj hahead
  exact h (hxy ▸ List.mem_append_right x List.mem_cons_self)

/-- Behind the last row there is no gap. -/
theorem go_last {trail : List Char} (htrail : trail.all isBlank = true) :
    findAll.go rowGapPattern 0 before (')' :: trail) = [] := by
  have hblank := List.all_eq_true.1 htrail
  have hclose : ¬ OpensGap (')' :: trail) := by
    intro hgap
    obtain ⟨comma, behind, hahead⟩ := hgap
    have hcomma : ',' ∈ trail := by
      rw [(List.cons.inj hahead).2, Comma.text]
      simp
    exact absurd (hblank ',' hcomma) (by decide)
  have hnone : ')' ∉ trail := fun hmem => absurd (hblank ')' hmem) (by decide)
  rw [findAll.go, matchAt_eq_none_of_not_opensGap hclose, ← List.append_nil trail]
  exact go_unclosed hnone []

theorem rowsText_cons (r : ValueRow) (others : List (Comma × ValueRow)) :
    ∃ rest, rowsText r others = '(' :: rest := by
  cases others with
  | nil => exact ⟨_, rfl⟩
  | cons other others => exact ⟨_, rfl⟩

/-- **There is a gap behind each row but the last.** -/
theorem length_go_rows (r : ValueRow) (others : List (Comma × ValueRow)) {trail : List Char}
    (htrail : trail.all isBlank = true) :
    (findAll.go rowGapPattern 0 before (rowsText r others ++ trail)).length = others.length := by
  have hopen : ∀ r : ValueRow, ')' ∉ '(' :: r.values := by
    intro r hmem
    rcases List.mem_cons.1 hmem with hparen | hvalue
    · exact absurd hparen (by decide)
    · exact r.unclosed hvalue
  induction others generalizing r before with
  | nil =>
    have htext : rowsText r [] ++ trail = ('(' :: r.values) ++ (')' :: trail) := by
      unfold rowsText ValueRow.text
      simp only [List.append_assoc, List.cons_append, List.nil_append]
    rw [htext, go_unclosed (hopen r), go_last htrail]
    rfl
  | cons other others ih =>
    obtain ⟨comma, next⟩ := other
    obtain ⟨rest, hnext⟩ := rowsText_cons next others
    have htext : rowsText r ((comma, next) :: others) ++ trail
        = ('(' :: r.values) ++ ((')' :: comma.text ++ ['(']) ++ (rest ++ trail)) := by
      rw [rowsText, hnext]
      unfold ValueRow.text
      simp only [List.append_assoc, List.cons_append, List.nil_append]
    -- the match takes the parenthesis of the next row along, which no match begins with
    have hparen : findAll.go rowGapPattern 0 none (rowsText next others ++ trail)
        = findAll.go rowGapPattern 0 (some '(') (rest ++ trail) := by
      have hone : ')' ∉ ['('] := by decide
      rw [hnext]
      exact go_unclosed hone (rest ++ trail)
    have hlast : ∀ b : Option Char, ((')' :: comma.text ++ ['(']).getLast?.or b) = some '(' := by
      intro b
      rw [List.getLast?_concat]
      rfl
    rw [htext, go_unclosed (hopen r), go_take (by simp) rfl (matchAt_rowGap comma _ _), hlast,
      List.length_cons, ← hparen, ih next]
    rfl

end

/-! ## §4. In front of the rows -/

/-- The last parenthesis of its kind stands in one place. -/
theorem behind_last {c : Char} {x y x' y' : List Char} (hx : c ∉ x) (hy : c ∉ y)
    (h : x ++ c :: y = x' ++ c :: y') : y' = y := by
  -- if the parenthesis stood elsewhere, one of the sides would hold another one
  rcases List.append_eq_append_iff.1 h with ⟨more, -, hrest⟩ | ⟨more, hfront, hrest⟩
  · cases more with
    | nil => exact (List.cons.inj hrest).2.symm
    | cons d more =>
      refine absurd ?_ hy
      rw [(List.cons.inj hrest).2]
      exact List.mem_append_right more List.mem_cons_self
  · cases more with
    | nil => exact (List.cons.inj hrest).2
    | cons d more =>
      refine absurd ?_ hx
      rw [hfront, ← (List.cons.inj hrest).1]
      exact List.mem_append_right x' List.mem_cons_self

theorem ne_paren_of_isBlank {c : Char} (h : isBlank c = true) : c ≠ ')' :=
  ne_of_isBlank h (by decide)

/-- No blank is a letter of VALUES. -/
theorem not_mem_valuesWord {c : Char} (h : isBlank c = true) : c ∉ valuesWord := by
  intro hmem
  have hletters : ∀ d ∈ valuesWord, isBlank d = false :=
    forall_of_all (P := fun d => isBlank d = false) (by decide +kernel)
  rw [hletters c hmem] at h
  exact Bool.noConfusion h

/-- A heading ends in characters that are no letters of VALUES. -/
theorem Heading.exists_end (heading : Heading) : ∃ inner seps, heading.text = inner ++ seps ∧
    seps ≠ [] ∧ ∀ c ∈ seps, c ∉ valuesWord := by
  cases heading with
  | bare gap =>
    exact ⟨[], gap.text, rfl, List.cons_ne_nil _ _,
      fun c hc => not_mem_valuesWord (isBlank_gap gap c hc)⟩
  | columns list =>
    refine ⟨list.left ++ ('(' :: list.names), ')' :: list.right,
      (List.append_assoc _ _ _).symm, List.cons_ne_nil _ _, ?_⟩
    refine List.forall_mem_cons.2 ⟨by decide, ?_⟩
    exact fun c hc => not_mem_valuesWord (List.all_eq_true.1 list.isBlank_right c hc)

namespace PlainInsert

variable (m : PlainInsert)

theorem paren_not_mem_opening : ')' ∉ m.opening := by
  have hblank : ∀ {blanks : List Char}, (∀ c ∈ blanks, isBlank c = true) → ')' ∉ blanks :=
    fun h hmem => ne_paren_of_isBlank (h _ hmem) rfl
  have htable : ')' ∉ m.table :=
    fun hmem => absurd (List.all_eq_true.1 m.isTableName _ hmem) (by decide)
  simp only [opening, List.mem_append, not_or]
  exact ⟨hblank (List.all_eq_true.1 m.isBlank_lead), by decide, hblank (isBlank_gap m.gap₁),
    by decide, hblank (isBlank_gap m.gap₂), htable⟩

/-- Where the names of the columns close no parenthesis, only blanks follow one in front of
    VALUES. -/
theorem blank_behind_paren (h : ')' ∉ m.heading.names) {x y : List Char}
    (hfront : m.front = x ++ ')' :: y) : ∀ c ∈ y, isBlank c = true := by
  have hopening := m.paren_not_mem_opening
  unfold front at hfront
  -- without columns there is no parenthesis, and with them it is the one that closes them
  cases hheading : m.heading with
  | bare gap =>
    rw [hheading] at hfront
    have hmem : ')' ∈ m.opening ++ gap.text := by
      rw [show m.opening ++ gap.text = _ from hfront]
      exact List.mem_append_right x List.mem_cons_self
    rcases List.mem_append.1 hmem with hin | hin
    · exact absurd hin hopening
    · exact absurd rfl (ne_paren_of_isBlank (isBlank_gap gap _ hin))
  | columns list =>
    rw [hheading] at h hfront
    have hright := List.all_eq_true.1 list.isBlank_right
    have hleft := List.all_eq_true.1 list.isBlank_left
    have hsplit : (m.opening ++ (list.left ++ '(' :: list.names)) ++ ')' :: list.right
        = x ++ ')' :: y := by
      rw [← hfront]
      show _ = m.opening ++ (list.left ++ ('(' :: list.names ++ ')' :: list.right))
      simp only [List.append_assoc, List.cons_append]
    have hinner : ')' ∉ m.opening ++ (list.left ++ '(' :: list.names) := by
      simp only [List.mem_append, List.mem_cons, not_or]
      exact ⟨hopening, fun hin => ne_paren_of_isBlank (hleft _ hin) rfl, by decide, h⟩
    have hlast : ')' ∉ list.right := fun hin => ne_paren_of_isBlank (hright _ hin) rfl
    rw [behind_last hinner hlast hsplit]
    exact hright

/-- No gap begins at VALUES. -/
theorem not_opensGap_back : ¬ OpensGap m.back := by
  intro hgap
  obtain ⟨comma, rest, hback⟩ := hgap
  have hletter : m.back.head? = some 'V' := rfl
  rw [hback] at hletter
  exact absurd (Option.some.inj hletter) (by decide)

/-- **No gap begins in front of VALUES**, if the names of the columns close no parenthesis. -/
theorem not_opensGap_front (h : ')' ∉ m.heading.names) {x y : List Char}
    (hfront : m.front = x ++ y) : ¬ OpensGap (y ++ m.back) := by
  cases y with
  | nil => exact m.not_opensGap_back
  | cons c y =>
    intro hgap
    obtain ⟨comma, rest, hahead⟩ := hgap
    obtain rfl : c = ')' := (List.cons.inj hahead).1
    -- behind the parenthesis and the blanks stands VALUES, and not a comma
    have hcomma : y ++ m.back = comma.left ++ ',' :: (comma.right ++ '(' :: rest) := by
      refine (List.cons.inj hahead).2.trans ?_
      rw [Comma.text, List.append_assoc]
      rfl
    have hletter : m.back.head?.any isBlank = false := show isBlank 'V' = false by decide
    have hsign : (',' :: (comma.right ++ '(' :: rest)).head?.any isBlank = false :=
      show isBlank ',' = false by decide
    obtain ⟨-, hsame⟩ := divided_once hcomma (m.blank_behind_paren h hfront)
      (List.all_eq_true.1 comma.isBlank_left) hletter hsign
    have hhead : some 'V' = some ',' := congrArg List.head? hsame
    exact absurd (Option.some.inj hhead) (by decide)

/-- VALUES stands in front of itself only if it stands in the table or in the names of columns. -/
theorem not_infix_front (htable : ¬ valuesWord <:+: m.table)
    (hnames : ¬ valuesWord <:+: m.heading.names) : ¬ valuesWord <:+: m.front := by
  -- blanks and parentheses are no letters of VALUES, so it does not reach across them
  have hblank : ∀ {blanks : List Char}, (∀ c ∈ blanks, isBlank c = true) →
      ∀ c ∈ blanks, c ∉ valuesWord := fun h c hc => not_mem_valuesWord (h c hc)
  have hnil : ¬ valuesWord <:+: [] := by decide
  have hopening : ¬ valuesWord <:+: m.opening := by
    intro h
    have hinsert := infix_of_seps_append (hblank (List.all_eq_true.1 m.isBlank_lead)) h
    rcases infix_of_append_seps (hblank (isBlank_gap m.gap₁)) (List.cons_ne_nil _ _) hinsert
      with hin | hinto
    · exact absurd hin (by decide +kernel)
    rcases infix_of_append_seps (hblank (isBlank_gap m.gap₂)) (List.cons_ne_nil _ _) hinto
      with hin | hin
    · exact absurd hin (by decide +kernel)
    · exact htable hin
  intro h
  unfold front at h
  cases hheading : m.heading with
  | bare gap =>
    rw [hheading, ← List.append_nil (Heading.text _)] at h
    rcases infix_of_append_seps (hblank (isBlank_gap gap)) (List.cons_ne_nil _ _) h with hin | hin
    · exact hopening hin
    · exact hnil hin
  | columns list =>
    rw [hheading] at h hnames
    have hopens : ∀ c ∈ list.left ++ ['('], c ∉ valuesWord :=
      List.forall_mem_append.2 ⟨hblank (List.all_eq_true.1 list.isBlank_left),
        List.forall_mem_singleton.2 (by decide)⟩
    have hcloses : ∀ c ∈ ')' :: list.right, c ∉ valuesWord :=
      List.forall_mem_cons.2 ⟨by decide, hblank (List.all_eq_true.1 list.isBlank_right)⟩
    have hsplit : m.opening ++ Heading.text (.columns list)
        = m.opening ++ ((list.left ++ ['(']) ++ (list.names ++ ((')' :: list.right) ++ []))) := by
      unfold Heading.text
      simp only [List.append_assoc, List.cons_append, List.nil_append, List.append_nil]
    rw [hsplit] at h
    rcases infix_of_append_seps hopens (by simp) h with hin | hrest
    · exact hopening hin
    rcases infix_of_append_seps hcloses (List.cons_ne_nil _ _) hrest with hin | hin
    · exact hnames hin
    · exact hnil hin

theorem getLast?_front : ∀ c ∈ m.front.getLast?, c ∉ valuesWord := by
  obtain ⟨inner, seps, htext, hne, hseps⟩ := m.heading.exists_end
  intro c hc
  rw [front, htext, ← List.append_assoc, List.getLast?_append,
    List.getLast?_eq_some_getLast hne, Option.some_or] at hc
  exact hseps c (Option.some.inj hc ▸ List.getLast_mem hne)

/-! ## §5. The shape -/

/-- From any place on where no gap begins in front of VALUES, the gaps are those of the rows. -/
theorem count_rowGap {found : List Char}
    (h : ∀ x y, found = x ++ y → ¬ OpensGap (y ++ m.back)) :
    rowGapPattern.count (found ++ m.back) = m.more.length := by
  have hunclosed : ')' ∉ valuesWord ++ m.behind := by
    rw [List.mem_append, not_or]
    exact ⟨by decide, fun hin =>
      ne_paren_of_isBlank (List.all_eq_true.1 m.isBlank_behind _ hin) rfl⟩
  have hback : m.back = (valuesWord ++ m.behind) ++ (rowsText m.first m.more ++ m.trail) :=
    (List.append_assoc _ _ _).symm
  unfold count findAll
  rw [go_skip fun x y hxy _ => matchAt_eq_none_of_not_opensGap (h x y hxy), hback,
    go_unclosed hunclosed]
  exact length_go_rows m.first m.more m.isBlank_trail

/-- **The text tells how many rows there are.** -/
theorem valueRows_text (h : ')' ∉ m.heading.names ∨
    ¬ valuesWord <:+: m.table ∧ ¬ valuesWord <:+: m.heading.names) :
    (InsertShape.ofText m.text).valueRows = m.rowCount := by
  obtain ⟨found, hfound, hbegins, hsearch⟩ := fromOccurrence?_append valuesWord m.front
    (m.behind ++ (rowsText m.first m.more ++ m.trail))
  have hgaps : ∀ x y, found = x ++ y → ¬ OpensGap (y ++ m.back) := by
    intro x y hxy
    rcases h with hnames | ⟨htable, hnames⟩
    · obtain ⟨before, hbefore⟩ := hfound
      refine m.not_opensGap_front hnames (x := before ++ x) ?_
      rw [← hbefore, hxy, List.append_assoc]
    · -- the search finds VALUES itself, and nothing in front of it
      have hnil := found_eq_nil hfound hbegins (m.not_infix_front htable hnames) m.getLast?_front
      rw [hnil] at hxy
      rw [(List.append_eq_nil_iff.1 hxy.symm).2]
      exact m.not_opensGap_back
  have hrows : fromOccurrence? "VALUES".toList m.text = some (found ++ m.back) := hsearch
  unfold InsertShape.ofText
  simp only [hrows]
  exact congrArg (· + 1) (m.count_rowGap hgaps)

theorem kind_text : Kind.ofText m.text = .insert := by
  have hlead : trimStart m.lead = [] := trimStart_of_blank m.isBlank_lead
  have hgap : endsKeyword m.gap₁.first = true := by
    rw [endsKeyword, m.gap₁.isBlank_first, Bool.true_or]
  let rest := m.gap₁.more ++ ("INTO".toList ++ (m.gap₂.text ++ (m.table ++ (m.heading.text ++
    m.back))))
  have htext : m.text = m.lead ++ ("INSERT".toList ++ m.gap₁.first :: rest) := by
    unfold text front opening Gap.text
    simp only [rest, List.append_assoc, List.cons_append]
    rfl
  have hhead : ("INSERT".toList ++ m.gap₁.first :: rest).head?.any isBlank = false :=
    show isBlank 'I' = false by decide
  have hplain : ∀ c ∈ "INSERT".toList, endsKeyword c = false :=
    forall_of_all (P := fun c => endsKeyword c = false) (by decide +kernel)
  have hkeyword : leadingKeyword m.text = "INSERT".toList := by
    rw [← leadingKeyword_trimStart, htext, trimStart_append hhead, hlead, List.nil_append,
      leadingKeyword, leadingWord_upto (by decide) hplain hgap]
    decide +kernel
  have hword : keywordOf (String.ofList m.text) = Verb.insert.word := by
    unfold keywordOf
    rw [String.toList_ofList, hkeyword, String.ofList_toList]
    rfl
  exact ofText_verb hword

/-- The parser reads the statement for what it is: an INSERT with the names of columns or without,
    and with all its rows. -/
structure ReadBy (parser : Parser) (sql : List Char) : Prop where
  /-- the text in capitals is that of the statement -/
  capitals : upper sql = m.text
  reads : parser sql = some [.insert m.heading.isExplicit m.rowCount]

end PlainInsert

/-- **The shape of an INSERT is the same by its text and by the parser.**  The text tells whether
    the columns are named and how many rows there are, if the names of the columns close no
    parenthesis or VALUES stands neither in them nor in the table. -/
theorem ofText_plainInsert (m : PlainInsert) (h : ')' ∉ m.heading.names ∨
    ¬ valuesWord <:+: m.table ∧ ¬ valuesWord <:+: m.heading.names) :
    Shape.ofText m.text = .insert ⟨m.heading.isExplicit, m.rowCount⟩ ∧
      ∀ (parser : Parser) (sql : List Char), m.ReadBy parser sql →
        Reading.ofText parser sql = .parsed (Shape.ofText m.text) := by
  have hshape : Shape.ofText m.text = .insert ⟨m.heading.isExplicit, m.rowCount⟩ := by
    have hcolumns : (InsertShape.ofText m.text).explicitColumns = m.heading.isExplicit :=
      m.insertColumns_occurs
    have hrows := m.valueRows_text h
    unfold Shape.ofText
    rw [m.kind_text]
    show Shape.insert ⟨(InsertShape.ofText m.text).explicitColumns,
      (InsertShape.ofText m.text).valueRows⟩ = _
    rw [hcolumns, hrows]
  refine ⟨hshape, fun parser sql hread => ?_⟩
  unfold Reading.ofText
  rw [hread.reads, hshape]
  rfl

/-- An INSERT of three rows, with the names of two columns, one of which holds a parenthesis. -/
def threeRows : PlainInsert where
  lead := ['\n']
  isBlank_lead := by decide
  gap₁ := lineBreak
  gap₂ := oneSpace
  table := "S.T".toList
  table_ne_nil := by decide
  isTableName := by decide +kernel
  heading := .columns ⟨[], "\"A),(\", B".toList, ['\t'], List.all_nil, by decide⟩
  behind := []
  isBlank_behind := List.all_nil
  first := ⟨"1, 'X,'".toList, by decide +kernel⟩
  more := [(⟨[], [], List.all_nil, List.all_nil⟩, ⟨"2, NULL".toList, by decide +kernel⟩),
    (⟨['\n'], ['\t'], by decide, by decide⟩, ⟨"3, ''".toList, by decide +kernel⟩)]
  trail := ['\n']
  isBlank_trail := by decide

/-- Its rows are counted, and the parser counts as many. -/
theorem threeRows_counted :
    (¬ valuesWord <:+: threeRows.table ∧ ¬ valuesWord <:+: threeRows.heading.names) ∧
    Shape.ofText threeRows.text = .insert ⟨true, 3⟩ ∧
    Reading.ofText Sql.read? threeRows.text = .parsed (.insert ⟨true, 3⟩) := by
  have hvalues : ¬ valuesWord <:+: threeRows.table ∧
      ¬ valuesWord <:+: threeRows.heading.names := by
    decide +kernel
  obtain ⟨hshape, hparser⟩ := ofText_plainInsert threeRows (.inr hvalues)
  have hread : threeRows.ReadBy Sql.read? threeRows.text :=
    ⟨by decide +kernel, by decide +kernel⟩
  have hparsed := hparser Sql.read? threeRows.text hread
  rw [hshape] at hparsed
  exact ⟨hvalues, hshape, hparsed⟩

end ScriptGate.Statement
