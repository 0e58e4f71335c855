/-
  ScriptGate.Proofs.Script.Boundary — where the scan of a text may be cut in two.

  The scanner looks ahead in three places only: behind a minus sign, behind a slash and behind a
  dollar sign.  A character that ends every such look-ahead is a boundary; in front of one, the
  scan of a text is the scan of its front and then of its back.  So it is behind a blank, which is
  read without looking ahead.  What is closed already is never looked at again, so the statements
  behind a semicolon are those of the text behind it.
  Main statements:
    - `run_append`           — the scan goes through a boundary in two steps;
    - `run_append_of_blank`  — and through the place behind a blank;
    - `run_above`            — closed fragments stay where they are;
    - `fragments_semicolon`  — a semicolon at top level separates the statements on its two sides.
-/
import ScriptGate.Proofs.Script.Step

namespace ScriptGate.Script

open ScriptGate.Text

/-! ## §1. Looking ahead -/

/-- Does every look-ahead end in front of this character?  It neither goes on with the tag of a
    dollar quote nor completes the opening bracket of a comment. -/
def isBoundary (c : Char) : Bool := !(isNameChar c || c == '$' || c == '-' || c == '*')

/-- Does a text begin with a boundary, if it begins at all? -/
def startsApart (v : List Char) : Bool := v.head?.all isBoundary

theorem isBoundary_of_isBlank {c : Char} (h : isBlank c = true) : isBoundary c = true := by
  have h₁ : c ≠ '$' := ne_of_isBlank h (by decide)
  have h₂ : c ≠ '-' := ne_of_isBlank h (by decide)
  have h₃ : c ≠ '*' := ne_of_isBlank h (by decide)
  simp [isBoundary, isNameChar_of_isBlank h, h₁, h₂, h₃]

theorem startsApart_of_blank {v : List Char} (h : v.all isBlank = true) : startsApart v = true := by
  cases v with
  | nil => rfl
  | cons c rest =>
    rw [List.all_cons, Bool.and_eq_true] at h
    exact isBoundary_of_isBlank h.1

theorem startsApart_semicolon (b : List Char) : startsApart (';' :: b) = true := by
  show isBoundary ';' = true
  decide

/-- What follows a boundary does not show whether a character comes next. -/
theorem head?_append {q v : List Char} (h : startsApart v = true) {d : Char}
    (hd : isBoundary d = false) : ((q ++ v).head? == some d) = (q.head? == some d) := by
  cases q with
  | cons e rest => rfl
  | nil =>
    cases v with
    | nil => rfl
    | cons e rest =>
      have hne : e ≠ d := by
        intro he
        rw [startsApart, List.head?_cons, Option.all_some, he, hd] at h
        exact Bool.noConfusion h
      simp [hne]

/-- A character of a name goes on with the tag. -/
theorem dollarTag?_cons {c : Char} (h : isNameChar c = true) (v : List Char) :
    dollarTag? (c :: v) = (dollarTag? v).map (c :: ·) := by
  simp only [dollarTag?, List.dropWhile_cons, List.takeWhile_cons, h, if_true]
  split <;> rfl

/-- Any other character than the dollar sign breaks it off. -/
theorem dollarTag?_eq_none {v : List Char}
    (h : v.head?.all (fun c => !(isNameChar c || c == '$')) = true) : dollarTag? v = none := by
  cases v with
  | nil => rfl
  | cons c rest =>
    rw [List.head?_cons, Option.all_some, Bool.not_eq_true', Bool.or_eq_false_iff,
      beq_eq_false_iff_ne] at h
    simp [dollarTag?, h.1, h.2]

/-- A tag is read in front of a boundary or not at all. -/
theorem dollarTag?_append {q v : List Char} (h : startsApart v = true) :
    dollarTag? (q ++ v) = dollarTag? q := by
  induction q with
  | nil =>
    -- there is no tag in front of a boundary
    refine dollarTag?_eq_none ?_
    cases v with
    | nil => rfl
    | cons c rest =>
      rw [startsApart, List.head?_cons, Option.all_some, isBoundary, Bool.not_eq_true',
        Bool.or_eq_false_iff, Bool.or_eq_false_iff] at h
      rw [List.nil_append, List.head?_cons, Option.all_some, h.1.1]
      rfl
  | cons d rest ih =>
    by_cases hd : isNameChar d = true
    · rw [List.cons_append, dollarTag?_cons hd, dollarTag?_cons hd, ih]
    · by_cases hs : d = '$'
      · rw [hs]; rfl
      · -- the tag breaks off at `d`, whatever follows
        have hnone : ∀ w : List Char, dollarTag? (d :: w) = none := by
          intro w
          refine dollarTag?_eq_none ?_
          simp [hd, hs]
        rw [List.cons_append, hnone, hnone]

/-! ## §2. The scan of a text in two steps -/

/-- In front of a boundary, what comes behind it has no say in whether a comment opens. -/
theorem opensComment_append (c : Char) {q v : List Char} (h : startsApart v = true) :
    opensComment c (q ++ v) = opensComment c q := by
  unfold opensComment
  rw [head?_append h (by decide), head?_append h (by decide)]

/-- Nor in what is taken on, nor in where the scan goes on. -/
theorem step_append (s : Scanner) (c : Char) {q v : List Char} (h : startsApart v = true) :
    s.takes c (q ++ v) = s.takes c q ∧ s.next c (q ++ v) = s.next c q := by
  unfold Scanner.takes Scanner.next Scanner.modeBehind dollarMode
  rw [opensComment_append c h, dollarTag?_append h]
  exact ⟨rfl, rfl⟩

theorem read_append (s : Scanner) (c : Char) {q v : List Char} (h : startsApart v = true) :
    s.read c (q ++ v) = s.read c q := by
  cases hcuts : s.cutsAt c with
  | true => rw [read_cutsAt hcuts, read_cutsAt hcuts]
  | false =>
    obtain ⟨htakes, hnext⟩ := step_append s c (q := q) h
    rw [read_step hcuts, read_step hcuts, htakes, hnext]

/-- **The scan goes through a boundary in two steps.** -/
theorem run_append (s : Scanner) {u v : List Char} (h : startsApart v = true) :
    s.run (u ++ v) = (s.run u).run v := by
  induction u generalizing s with
  | nil => rfl
  | cons c rest ih =>
    rw [List.cons_append, run_cons, run_cons, read_append s c h]
    exact ih _

/-! ## §3. Behind a blank -/

/-- A blank is read without regard to what comes behind it. -/
theorem read_blank (s : Scanner) {c : Char} (h : isBlank c = true) (v w : List Char) :
    s.read c v = s.read c w := by
  cases hs : s.mode.isTop with
  | true =>
    have hmark := isMark_of_isBlank h
    rw [(read_plain hs hmark v).2.2, (read_plain hs hmark w).2.2]
  | false => rw [read_inside hs, read_inside hs]

/-- Behind a blank, the scan of a text is the scan of its front and then of its back. -/
theorem run_append_of_blank (s : Scanner) {a : List Char} (h : a.getLast?.all isBlank = true)
    (v : List Char) : s.run (a ++ v) = (s.run a).run v := by
  rcases List.eq_nil_or_concat a with rfl | ⟨front, c, rfl⟩
  · rfl
  · rw [List.concat_eq_append] at h ⊢
    rw [List.getLast?_concat, Option.all_some] at h
    have hapart : ∀ w : List Char, startsApart (c :: w) = true := fun _ =>
      isBoundary_of_isBlank h
    rw [List.append_assoc, List.singleton_append, run_append s (hapart v),
      run_append s (hapart []), run_cons, run_cons, run_nil, read_blank _ h v []]

/-- Where a blank leads back to top level, a blank is taken on. -/
theorem gives_blank {mode : Mode} (hmode : mode.isTop = false) {c : Char}
    (hc : isBlank c = true) (h : (mode.inside c).isTop = true) :
    ∃ d, mode.gives c = some d ∧ isBlank d = true := by
  unfold Mode.inside at h
  unfold Mode.gives
  cases mode with
  | top => exact Bool.noConfusion hmode
  | closed escapes => exact Bool.noConfusion hmode
  | lineComment =>
    dsimp only at h ⊢
    split at h
    · next hline =>
      rw [if_pos hline]
      exact ⟨c, rfl, hc⟩
    · exact Bool.noConfusion h
  | commentBracket => exact Bool.noConfusion h
  | comment star =>
    dsimp only at h ⊢
    split at h
    · next hends =>
      rw [if_pos hends]
      exact ⟨' ', rfl, by decide⟩
    · exact Bool.noConfusion h
  | _ => exact ⟨c, rfl, hc⟩

/-- At top level behind a blank the open fragment does not end in a name. -/
theorem nameless_of_blank {a : List Char} (hlast : a.getLast?.all isBlank = true)
    (htop : (Scanner.start.run a).mode.isTop = true) :
    (Scanner.start.run a).current.head?.any isNameChar = false := by
  rcases List.eq_nil_or_concat a with rfl | ⟨front, c, rfl⟩
  · rfl
  · rw [List.concat_eq_append] at hlast htop ⊢
    rw [List.getLast?_concat, Option.all_some] at hlast
    rw [run_append _ (show startsApart [c] = true from isBoundary_of_isBlank hlast), run_cons,
      run_nil] at htop ⊢
    -- the blank was read at top level, or it closed what the scan was in
    cases hs : (Scanner.start.run front).mode.isTop with
    | true =>
      rw [(read_plain hs (isMark_of_isBlank hlast) []).2.2]
      exact isNameChar_of_isBlank hlast
    | false =>
      rw [read_inside hs] at htop ⊢
      obtain ⟨d, hgives, hd⟩ := gives_blank hs hlast htop
      rw [hgives]
      exact isNameChar_of_isBlank hd

/-! ## §4. Closed fragments -/

/-- The scanner above fragments that were closed before it started. -/
def Scanner.above (s : Scanner) (closed : List (List Char)) : Scanner :=
  { s with closed := s.closed ++ closed }

theorem cut_above (s : Scanner) (closed : List (List Char)) :
    (s.above closed).cut = s.cut.above closed := by
  unfold Scanner.cut Scanner.above
  by_cases h : (trim s.current.reverse).isEmpty = true
  · simp [h]
  · simp [h]

theorem read_above (s : Scanner) (closed : List (List Char)) (c : Char) (ahead : List Char) :
    (s.above closed).read c ahead = (s.read c ahead).above closed := by
  cases hcuts : s.cutsAt c with
  | true =>
    have hcuts' : (s.above closed).cutsAt c = true := hcuts
    rw [read_cutsAt hcuts, read_cutsAt hcuts', cut_above]
  | false =>
    have hcuts' : (s.above closed).cutsAt c = false := hcuts
    rw [read_step hcuts, read_step hcuts']
    rfl

/-- Closed fragments stay where they are. -/
theorem run_above (s : Scanner) (closed : List (List Char)) (u : List Char) :
    (s.above closed).run u = (s.run u).above closed := by
  induction u generalizing s with
  | nil => rfl
  | cons c rest ih =>
    rw [run_cons, run_cons, read_above, ih]

/-- The scan of a text behind closed fragments. -/
theorem closed_run_top (closed : List (List Char)) (u : List Char) :
    ((Scanner.mk .top [] closed).run u).cut.closed.reverse = closed.reverse ++ fragments u := by
  have h : Scanner.mk .top [] closed = Scanner.start.above closed := rfl
  rw [h, run_above, cut_above]
  show ((Scanner.start.run u).cut.closed ++ closed).reverse = _
  rw [List.reverse_append]
  rfl

/-! ## §5. Semicolons -/

/-- **A semicolon at top level separates the statements on its two sides.** -/
theorem fragments_semicolon {a : List Char} (h : (Scanner.start.run a).mode.isTop = true)
    (b : List Char) : fragments (a ++ ';' :: b) = fragments a ++ fragments b := by
  show ((Scanner.start.run (a ++ ';' :: b)).cut).closed.reverse = _
  rw [run_append _ (startsApart_semicolon b), run_cons, read_semicolon h]
  exact closed_run_top _ b

end ScriptGate.Script
