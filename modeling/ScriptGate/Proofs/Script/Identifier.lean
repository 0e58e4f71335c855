/-
  ScriptGate.Proofs.Script.Identifier — dollar signs in identifiers.

  In the language of the scripts an identifier may go on with dollar signs, and none of them opens a
  quote.  The scanner looks at one character only: behind a letter, a digit or an underscore a
  dollar sign opens nothing, but behind another dollar sign it may.  A quote that opens so is
  closed if the identifier holds the closing delimiter too; the dollar sign in which that ends may
  stand in front of the next quote.
  Main statements:
    - `isTop_run_iff`             — the scan of an identifier ends at top level exactly if every
                                    quote that opens in it is closed in it;
    - `identifier_separated_iff`  — exactly then a semicolon behind it separates;
    - `settled_of_single`         — this is so if no two of its dollar signs stand side by side.
-/
import ScriptGate.Proofs.Script.Delimiter
import ScriptGate.Proofs.Script.Kept

namespace ScriptGate.Script

open ScriptGate.Text

/-! ## §1. Identifiers -/

/-- A character that an identifier goes on with. -/
def isIdentifierChar (c : Char) : Bool := isNameChar c || c == '$'

/-- An identifier: a letter or an underscore, and behind it letters, digits, underscores and dollar
    signs as they come. -/
def isIdentifier : List Char → Bool
  | [] => false
  | c :: rest => (isAlphabetic c || c == '_') && rest.all isIdentifierChar

/-- The first character of an identifier is a character of a name. -/
theorem exists_of_isIdentifier {w : List Char} (h : isIdentifier w = true) :
    ∃ c rest, w = c :: rest ∧ isNameChar c = true ∧ w.all isIdentifierChar = true := by
  cases w with
  | nil => exact Bool.noConfusion h
  | cons c rest =>
    rw [isIdentifier, Bool.and_eq_true, Bool.or_eq_true] at h
    obtain ⟨hfirst, hrest⟩ := h
    have hname : isNameChar c = true := by
      rw [isNameChar, isAlphanumeric, Bool.or_eq_true, Bool.or_eq_true]
      exact hfirst.imp_left .inl
    refine ⟨c, rest, rfl, hname, ?_⟩
    rw [List.all_cons, hrest, isIdentifierChar, hname]
    rfl

theorem name_or_dollar {c : Char} (h : isIdentifierChar c = true) :
    isNameChar c = true ∨ c = '$' := by
  rw [isIdentifierChar, Bool.or_eq_true, beq_iff_eq] at h
  exact h

/-- No quote opens in the text: no dollar sign stands in front of a delimiter. -/
def Unopened (text : List Char) : Prop :=
  ∀ tag : List Char, tag.all isNameChar = true → ¬ '$' :: dollarDelimiter tag <:+: text

/-- Every quote that opens in the text is closed in it, read from left to right.  Some characters
    behind the opening delimiter are read along with it, and the last dollar sign of the closing
    one may stand in front of the next quote. -/
inductive Settled : List Char → Prop where
  | unopened {text : List Char} : Unopened text → Settled text
  | closed {front tag skipped body back : List Char} :
      Unopened (front ++ ['$', '$']) → tag.all isNameChar = true →
      tag.length + 1 + skipped.length = openerLength tag →
      EndsFirst (dollarDelimiter tag) body → Settled ('$' :: back) →
      Settled (front ++ '$' :: (dollarDelimiter tag ++ skipped ++ body ++ dollarDelimiter tag ++
        back))

/-- **An identifier without two dollar signs side by side is settled.** -/
theorem settled_of_single {text : List Char} (h : ¬ ['$', '$'] <:+: text) : Settled text := by
  refine .unopened fun tag _ hin => h (List.IsInfix.trans ?_ hin)
  exact ⟨[], tag ++ ['$'], rfl⟩

/-- Where a quote opens, one is the first. -/
theorem exists_first_opening {text : List Char} (h : ¬ Unopened text) :
    ∃ front tag back, text = front ++ '$' :: (dollarDelimiter tag ++ back) ∧
      tag.all isNameChar = true ∧ Unopened (front ++ ['$', '$']) := by
  induction text with
  | nil => exact absurd (fun _ _ hin => List.cons_ne_nil _ _ (List.infix_nil.1 hin)) h
  | cons c rest ih =>
    -- a quote opens here, or the first one is further on
    by_cases hhere : ∃ tag : List Char, tag.all isNameChar = true ∧
        '$' :: dollarDelimiter tag <+: c :: rest
    · obtain ⟨tag, htag, back, hback⟩ := hhere
      refine ⟨[], tag, back, hback.symm, htag, fun tag' _ hin => ?_⟩
      have hle := hin.length_le
      simp [dollarDelimiter] at hle
    · have hrest : ¬ Unopened rest := by
        intro hunopened
        refine h fun tag htag hin => ?_
        rcases List.infix_cons_iff.1 hin with hprefix | hin
        · exact hhere ⟨tag, htag, hprefix⟩
        · exact hunopened tag htag hin
      obtain ⟨front, tag, back, rfl, htag, hfirst⟩ := ih hrest
      refine ⟨c :: front, tag, back, rfl, htag, fun tag' htag' hin => ?_⟩
      rcases List.infix_cons_iff.1 hin with hprefix | hin
      · refine hhere ⟨tag', htag', hprefix.trans ⟨tag ++ ['$'] ++ back, ?_⟩⟩
        simp [dollarDelimiter]
      · exact hfirst tag' htag' hin

/-! ## §2. Looking for a tag -/

/-- A tag is looked for up to the next dollar sign. -/
theorem dollarTag?_upto (q v : List Char) :
    dollarTag? (q ++ '$' :: v) = dollarTag? (q ++ ['$']) := by
  induction q with
  | nil => rfl
  | cons c rest ih =>
    by_cases hc : isNameChar c = true
    · rw [List.cons_append, List.cons_append, dollarTag?_cons hc, dollarTag?_cons hc, ih]
    · by_cases hs : c = '$'
      · rw [hs]
        rfl
      · rw [dollarTag?_eq_none (by simp [hc, hs]), dollarTag?_eq_none (by simp [hc, hs])]

/-- Behind two dollar signs there is no tag where no quote opens. -/
theorem dollarTag?_of_unopened {p q : List Char} (h : Unopened (p ++ '$' :: '$' :: q)) :
    dollarTag? q = none := by
  cases htag : dollarTag? q with
  | none => rfl
  | some tag =>
    obtain ⟨hname, rest, rfl⟩ := dollarTag?_eq_some htag
    refine absurd ⟨p, rest, ?_⟩ (h tag hname)
    simp [dollarDelimiter]

/-! ## §3. The scan of an identifier -/

/-- Where no tag is found behind two dollar signs, the scan stays at top level. -/
theorem run_untagged {u v : List Char} (closed : List (List Char)) :
    ∀ (c : Char) (current : List Char), (c :: u).all isIdentifierChar = true →
      (∀ p q, c :: u = p ++ '$' :: '$' :: q → dollarTag? (q ++ v) = none) →
      (Scanner.mk .top (c :: current) closed).run (u ++ v)
        = (Scanner.mk .top ((c :: u).reverse ++ current) closed).run v := by
  induction u with
  | nil => exact fun _ _ _ _ => rfl
  | cons d rest ih =>
    intro c current hall huntagged
    have hident := hall
    rw [List.all_cons, List.all_cons, Bool.and_eq_true, Bool.and_eq_true] at hident
    have hread : (Scanner.mk .top (c :: current) closed).read d (rest ++ v)
        = ⟨.top, d :: c :: current, closed⟩ := by
      rcases name_or_dollar hident.2.1 with hd | rfl
      · exact (read_plain rfl (isMark_of_isNameChar hd) _).2.2
      · -- in front of the dollar sign there is a name, or another dollar sign without a tag
        have hmode : dollarMode (c :: current) (rest ++ v) = .top := by
          unfold dollarMode
          rcases name_or_dollar hident.1 with hc | rfl
          · exact if_pos hc
          · rw [huntagged [] rest rfl]
            split <;> rfl
        show Scanner.mk (dollarMode (c :: current) (rest ++ v)) ('$' :: c :: current) closed = _
        rw [hmode]
    have hrest := ih d (c :: current)
      (by rw [List.all_cons, Bool.and_eq_true]; exact hident.2)
      fun p q heq => huntagged (c :: p) q (by rw [heq]; rfl)
    rw [List.cons_append, run_cons, hread, hrest, List.reverse_cons (a := c), List.append_assoc]
    rfl

/-- The scan comes to the first quote at top level. -/
theorem run_front {front tag back : List Char} (h : Unopened (front ++ ['$', '$']))
    (hall : front.all isIdentifierChar = true) {c : Char} {u : List Char}
    (htext : c :: u = front ++ '$' :: (dollarDelimiter tag ++ back)) (current : List Char)
    (closed : List (List Char)) :
    (Scanner.mk .top (c :: current) closed).run u
      = (Scanner.mk .top ('$' :: (front.reverse ++ current)) closed).run
          (dollarDelimiter tag ++ back) := by
  obtain ⟨w, hfront, rfl⟩ : ∃ w, front ++ ['$'] = c :: w ∧
      u = w ++ (dollarDelimiter tag ++ back) := by
    cases front with
    | nil =>
      injection htext with hc hu
      exact ⟨[], by rw [hc]; rfl, hu⟩
    | cons d front =>
      injection htext with hc hu
      refine ⟨front ++ ['$'], by rw [hc]; rfl, ?_⟩
      rw [hu, List.append_assoc]
      rfl
  -- a tag behind two dollar signs of the front would end in front of the quote
  have huntagged : ∀ p q, c :: w = p ++ '$' :: '$' :: q →
      dollarTag? (q ++ (dollarDelimiter tag ++ back)) = none := by
    intro p q heq
    have hunopened : Unopened (p ++ '$' :: '$' :: (q ++ ['$'])) := by
      have hsame : front ++ ['$', '$'] = p ++ '$' :: '$' :: (q ++ ['$']) := by
        rw [show ['$', '$'] = ['$'] ++ ['$'] from rfl, ← List.append_assoc, hfront, heq,
          List.append_assoc]
        rfl
      rw [← hsame]
      exact h
    exact (dollarTag?_upto q _).trans (dollarTag?_of_unopened hunopened)
  have hident : (c :: w).all isIdentifierChar = true := by
    rw [← hfront, List.all_append, hall]
    rfl
  rw [run_untagged closed c current hident huntagged, ← hfront, List.reverse_append,
    List.append_assoc]
  rfl

/-- The scan goes through a quote that is closed. -/
theorem exists_run_closed {tag skipped body : List Char} (htag : tag.all isNameChar = true)
    (hlength : tag.length + 1 + skipped.length = openerLength tag)
    (h : EndsFirst (dollarDelimiter tag) body) (back current : List Char)
    (closed : List (List Char)) :
    ∃ taken, (Scanner.mk .top ('$' :: current) closed).run
        (dollarDelimiter tag ++ skipped ++ body ++ dollarDelimiter tag ++ back)
      = (Scanner.mk .top ('$' :: taken) closed).run back := by
  have hrun := run_dollar (s := ⟨.top, '$' :: current, closed⟩) rfl
    (show isNameChar '$' = false by decide) htag hlength h back
  dsimp only at hrun
  -- the closing delimiter ends in a dollar sign too
  rw [hrun, List.reverse_append, List.append_assoc, dollarDelimiter, List.reverse_append]
  exact ⟨_, rfl⟩

/-- What stands around a quote are characters of the identifier too. -/
theorem all_around {front quote back : List Char}
    (h : (front ++ '$' :: (quote ++ back)).all isIdentifierChar = true) :
    front.all isIdentifierChar = true ∧ ('$' :: back).all isIdentifierChar = true := by
  rw [List.all_append, List.all_cons, List.all_append, Bool.and_eq_true, Bool.and_eq_true,
    Bool.and_eq_true] at h
  exact ⟨h.1, h.2.2.2⟩

/-- **The scan of a settled text ends at top level.** -/
theorem isTop_of_settled {text : List Char} (h : Settled text) :
    ∀ {c : Char} {u current : List Char} {closed : List (List Char)}, text = c :: u →
      text.all isIdentifierChar = true →
      ((Scanner.mk .top (c :: current) closed).run u).mode.isTop = true := by
  induction h with
  | @unopened text hunopened =>
    rintro c u current closed rfl hall
    -- no dollar sign opens a quote here
    have hrun := run_untagged (v := []) closed c current hall ?_
    · rw [List.append_nil, run_nil] at hrun
      rw [hrun]
      rfl
    · intro p q heq
      rw [heq] at hunopened
      rw [List.append_nil]
      exact dollarTag?_of_unopened hunopened
  | @closed front tag skipped body back hfirst htag hlength hbody _ ih =>
    intro c u current closed htext hall
    obtain ⟨hfront, hback⟩ := all_around hall
    -- behind its closing delimiter the scan is at top level again
    obtain ⟨taken, hrun⟩ :=
      exists_run_closed htag hlength hbody back (front.reverse ++ current) closed
    simp only [List.append_assoc] at htext hrun
    rw [run_front hfirst hfront htext.symm, hrun]
    exact ih rfl hback

/-- **A text whose scan ends at top level is settled.** -/
theorem settled_of_isTop {text : List Char} :
    ∀ {c : Char} {u current : List Char} {closed : List (List Char)}, text = c :: u →
      text.all isIdentifierChar = true →
      ((Scanner.mk .top (c :: current) closed).run u).mode.isTop = true → Settled text := by
  -- behind a quote that is closed there is less of the text
  induction hlength : text.length using Nat.strongRecOn generalizing text with
  | ind n ih =>
    intro c u current closed htext hall htop
    by_cases hunopened : Unopened text
    · exact .unopened hunopened
    obtain ⟨front, tag, behind, heq, htag, hfirst⟩ := exists_first_opening hunopened
    rw [heq] at hall
    rw [run_front hfirst (all_around hall).1 (htext.symm.trans heq)] at htop
    by_cases hin : dollarDelimiter tag <:+: behind.drop (openerLength tag - (tag.length + 1))
    · obtain ⟨skipped, body, back, rfl, hskipped, hbody⟩ := exists_closing hin
      simp only [← List.append_assoc (dollarDelimiter tag)] at heq htop hall
      obtain ⟨taken, hrun⟩ := exists_run_closed htag hskipped hbody back
        (front.reverse ++ current) closed
      have hback := (all_around hall).2
      have hshorter : ('$' :: back).length < n := by
        rw [← hlength, heq]
        simp only [List.length_append, List.length_cons, length_dollarDelimiter]
        omega
      rw [hrun] at htop
      rw [heq]
      exact .closed hfirst htag hskipped hbody (ih _ hshorter rfl rfl hback htop)
    · obtain ⟨opener, inside, hrun⟩ :=
        run_unclosed_dollar (s := ⟨.top, '$' :: (front.reverse ++ current), closed⟩) rfl
          (show isNameChar '$' = false by decide) htag hin
      rw [hrun] at htop
      exact Bool.noConfusion htop

/-! ## §4. Separation -/

/-- An identifier is kept. -/
theorem keeps_identifier {text : List Char} (hall : text.all isIdentifierChar = true) :
    ∀ {s : Scanner}, s.mode.isPlain = true → Keeps s text := by
  induction text with
  | nil => exact fun _ => .nil
  | cons c rest ih =>
    intro s hs
    rw [List.all_cons, Bool.and_eq_true] at hall
    -- the scanner acts on no character of an identifier but the dollar sign
    have hne : ∀ d, isIdentifierChar d = false → c ≠ d := by
      rintro d hd rfl
      rw [hall.1] at hd
      exact Bool.noConfusion hd
    have hcuts : s.cutsAt c = false := by
      rw [Scanner.cutsAt, beq_eq_false_iff_ne.2 (hne ';' (by decide)), Bool.and_false]
    have hopens : opensComment c rest = false := by
      rw [opensComment, beq_eq_false_iff_ne.2 (hne '-' (by decide)),
        beq_eq_false_iff_ne.2 (hne '/' (by decide))]
      rfl
    have htakes : s.takes c rest = some c := by
      cases htop : s.mode.isTop with
      | true => exact (takes_top_eq_some htop).2 ⟨hopens, rfl⟩
      | false => exact takes_inside hs htop c rest
    exact .cons hcuts htakes (ih hall.2 (isPlain_read hs hcuts htakes))

/-- **The scan of an identifier ends at top level exactly if it is settled.** -/
theorem isTop_run_iff {s : Scanner} (hs : s.mode.isTop = true) {w : List Char}
    (hw : isIdentifier w = true) : (s.run w).mode.isTop = true ↔ Settled w := by
  obtain ⟨c, rest, rfl, hname, hall⟩ := exists_of_isIdentifier hw
  rw [run_cons, (read_plain hs (isMark_of_isNameChar hname) rest).2.2]
  exact ⟨settled_of_isTop rfl hall, fun hsettled => isTop_of_settled hsettled rfl hall⟩

/-- **A semicolon behind an identifier separates exactly if the identifier is settled**, whatever
    stands behind it.  Where a quote opens in the identifier and is not closed in it, the semicolon
    is swallowed. -/
theorem identifier_separated_iff {a : List Char} (htop : (Scanner.start.run a).mode.isTop = true)
    (hlast : a.getLast?.all isBlank = true) {w : List Char} (hw : isIdentifier w = true)
    (r : List Char) :
    fragments (a ++ w ++ ';' :: ' ' :: r) = fragments (a ++ w) ++ fragments r ↔ Settled w := by
  obtain ⟨c, rest, hcons, hname, hall⟩ := exists_of_isIdentifier hw
  have hrun := run_append_of_blank .start hlast w
  have hplain := isPlain_of_isTop htop
  have hkeeps := keeps_identifier hall hplain
  have hgives : (Scanner.start.run (a ++ w)).mode.gives ';' = some ';' := by
    rw [hrun]
    exact gives_of_isPlain (isPlain_run hplain hkeeps) ';'
  -- the identifier itself keeps the open fragment from being blank
  have hcurrent : (Scanner.start.run (a ++ w)).current.all isBlank = false := by
    have hc : isBlank c = false := by
      rw [Bool.eq_false_iff]
      intro hblank
      rw [isNameChar_of_isBlank hblank] at hname
      exact Bool.noConfusion hname
    rw [hrun, current_of_keeps hkeeps, List.all_append, List.all_reverse, hcons, List.all_cons, hc]
    rfl
  rw [← fragments_blank (show isBlank ' ' = true by decide) r, separated_iff hgives hcurrent, hrun]
  exact isTop_run_iff htop hw

/-- One dollar sign opens nothing; of two, the second opens a quote that the identifier closes or
    not. -/
theorem doubled_dollar_swallows :
    fragments "SELECT x$y$; DROP TABLE t".toList
      = fragments "SELECT x$y$".toList ++ fragments "DROP TABLE t".toList ∧
    Settled "x$$y$z$y$".toList ∧ ¬ Settled "x$$y$".toList ∧
    fragments "SELECT x$$y$; DROP TABLE t".toList
      ≠ fragments "SELECT x$$y$".toList ++ fragments "DROP TABLE t".toList := by
  have htop : (Scanner.start.run "SELECT ".toList).mode.isTop = true := by decide +kernel
  have hlast : "SELECT ".toList.getLast?.all isBlank = true := by decide
  have hiff (w : List Char) (hw : isIdentifier w = true) :=
    identifier_separated_iff htop hlast hw "DROP TABLE t".toList
  have hswallows : fragments "SELECT x$$y$; DROP TABLE t".toList
      ≠ fragments "SELECT x$$y$".toList ++ fragments "DROP TABLE t".toList := by decide +kernel
  refine ⟨(hiff "x$y$".toList (by decide)).2 (settled_of_single (by decide)),
    (hiff "x$$y$z$y$".toList (by decide)).1 (by decide +kernel), fun hsettled => ?_, hswallows⟩
  exact hswallows ((hiff "x$$y$".toList (by decide)).2 hsettled)

end ScriptGate.Script
