/-
  ScriptGate.Proofs.Script.Comment — comments inside comments.

  In the language of the scripts bracketed comments nest: a comment ends where as many brackets are
  closed as are open.  The scanner does not count; for it a comment ends at the first closing
  bracket, and what is left of the comment is read as text of the script.  So it drops exactly the
  comments in which no other comment opens.
  Main statements:
    - `endsFirst_of_nested`  — a comment in which no other opens ends at its first closing bracket;
    - `swallows_of_silent`   — what is left of a comment behind an inner one shows: some text comes
                               out, or the scan is stuck in a comment;
    - `comment_dropped_iff`  — a comment is dropped wherever it stands exactly if no other opens in
                               it.
-/
import ScriptGate.Deployment.Impact
import ScriptGate.Proofs.Script.Delimiter
import ScriptGate.Proofs.Script.Output

namespace ScriptGate.Script

open ScriptGate.Text

/-! ## §1. Nesting -/

/-- The text closes `depth` comments that are open, the last of them at its very end.  Brackets are
    read from left to right, and no character belongs to two of them. -/
inductive Nested : Nat → List Char → Prop where
  | done : Nested 0 []
  /-- another comment opens -/
  | opened {depth text} : Nested (depth + 2) text → Nested (depth + 1) ('/' :: '*' :: text)
  /-- the innermost comment closes -/
  | closed {depth text} : Nested depth text → Nested (depth + 1) ('*' :: '/' :: text)
  /-- any other character -/
  | other {depth c text} : Nested (depth + 1) text → ¬ (c = '/' ∧ text.head? = some '*') →
      ¬ (c = '*' ∧ text.head? = some '/') → Nested (depth + 1) (c :: text)

/-- The bracketed comment with this text behind its opening bracket. -/
def comment (text : List Char) : List Char := '/' :: '*' :: text

/-- A comment in which no other opens ends at its first closing bracket. -/
theorem endsFirst_of_nested {depth : Nat} {text : List Char} (h : Nested depth text)
    (hdepth : depth = 1) (hflat : ¬ openingBracket <:+: text) :
    ∃ body, text = body ++ closingBracket ∧ EndsFirst closingBracket body := by
  -- where no comment opens the depth stays one up to the first closing bracket
  induction h with
  | done => exact absurd hdepth (by decide)
  | @opened depth text _ _ => exact absurd ⟨[], text, rfl⟩ hflat
  | @closed depth text hrest _ =>
    obtain rfl : depth = 0 := by omega
    cases hrest
    exact ⟨[], rfl, endsFirst_nil closingBracket⟩
  | @other depth c text _ hopen hclose ih =>
    obtain ⟨body, rfl, hfirst⟩ := ih hdepth fun hin => hflat (List.infix_cons hin)
    refine ⟨c :: body, rfl, hfirst.cons ?_⟩
    rintro ⟨tail, heq⟩
    injection heq with hc hrest
    exact hclose ⟨hc.symm, by rw [← hrest]; rfl⟩

/-! ## §2. Silence -/

/-- Nothing but blanks has come out of the scan. -/
def Scanner.Silent (s : Scanner) : Prop := s.closed = [] ∧ s.current.all isBlank = true

theorem closed_cut_eq_nil_iff (s : Scanner) : s.cut.closed = [] ↔ s.Silent := by
  rw [closed_cut, List.append_eq_nil_iff, whole_eq_nil_iff, List.all_reverse]
  exact And.comm

/-- What has come out stays. -/
theorem silent_of_read {s : Scanner} {c : Char} {ahead : List Char}
    (h : (s.read c ahead).Silent) : s.Silent := by
  cases hc : s.cutsAt c with
  | true =>
    rw [read_cutsAt hc] at h
    exact (closed_cut_eq_nil_iff s).1 h.1
  | false =>
    obtain ⟨hcurrent, hclosed⟩ := current_read hc ahead
    obtain ⟨hnil, hblank⟩ := h
    rw [hcurrent, List.all_append, Bool.and_eq_true] at hblank
    exact ⟨hclosed ▸ hnil, hblank.2⟩

theorem silent_of_run {u : List Char} : ∀ {s : Scanner}, (s.run u).Silent → s.Silent := by
  induction u with
  | nil => exact fun h => h
  | cons c rest ih => exact fun h => silent_of_read (ih h)

/-- A character that is no blank is heard. -/
theorem not_silent_push {s : Scanner} {c : Char} {mode : Mode} {u : List Char}
    (hc : isBlank c = false) : ¬ ((s.push c mode).run u).Silent := by
  intro h
  obtain ⟨_, hblank⟩ := silent_of_run h
  rw [show (s.push c mode).current = c :: s.current from rfl, List.all_cons, hc] at hblank
  exact Bool.noConfusion hblank

/-! ## §3. Behind an inner comment -/

/-- Does the scan stand in a comment, so that it drops what it reads? -/
def Mode.swallows : Mode → Bool
  | .lineComment | .comment _ => true
  | _ => false

/-- Where a silent scan can stand while `depth` comments are open: it takes one of them less for
    open than there are, or it is inside of a line comment. -/
def Mode.lags (depth : Nat) : Mode → Prop
  | .top => 1 ≤ depth
  | .comment _ => 2 ≤ depth
  | .lineComment => True
  | _ => False

/-- Where no comment opens, a silent scan stays where it can stand. -/
theorem lags_read {depth : Nat} {c : Char} {ahead : List Char} {s : Scanner}
    (hlags : s.mode.lags (depth + 1)) (hopen : ¬ (c = '/' ∧ ahead.head? = some '*'))
    (hsilent : (s.read c ahead).Silent) : (s.read c ahead).mode.lags (depth + 1) := by
  obtain ⟨mode, current, closed⟩ := s
  have htop : Mode.top.lags (depth + 1) := Nat.le_add_left 1 depth
  cases mode with
  | top =>
    revert hsilent
    rw [read_top rfl]
    unfold readTop
    split
    -- what opens a literal or a name is heard
    case h_1 => exact fun hsilent => absurd hsilent (not_silent_push (u := []) (by decide))
    case h_2 => exact fun hsilent => absurd hsilent (not_silent_push (u := []) (by decide))
    case h_3 => exact fun hsilent => absurd hsilent (not_silent_push (u := []) (by decide))
    case h_4 => exact fun _ => htop
    case h_5 =>
      split
      · exact fun _ => trivial
      · exact fun _ => htop
    case h_6 =>
      split
      -- a slash and a star open a comment, and here none opens
      case isTrue hstar => exact absurd ⟨rfl, beq_iff_eq.1 hstar⟩ hopen
      case isFalse => exact fun _ => htop
    case h_7 => exact fun _ => htop
  | lineComment =>
    show (if c == '\n' then _ else _ : Scanner).mode.lags (depth + 1)
    split
    · exact htop
    · exact trivial
  | comment star =>
    show (if star && c == '/' then _ else _ : Scanner).mode.lags (depth + 1)
    split
    · exact htop
    · exact hlags
  | _ => exact hlags.elim

/-- **What is left of a comment shows**: unless some text comes out, the scan is stuck in a
    comment at its end. -/
theorem swallows_of_silent {depth : Nat} {text : List Char} (h : Nested depth text) :
    ∀ {s : Scanner}, s.mode.lags depth → (s.run text).Silent →
      (s.run text).mode.swallows = true := by
  induction h with
  | done =>
    rintro ⟨mode, current, closed⟩ hlags _
    cases mode with
    | lineComment => rfl
    | top => exact absurd hlags (Nat.not_succ_le_zero 0)
    | comment star => exact absurd hlags (Nat.not_succ_le_zero 1)
    | _ => exact hlags.elim
  | @opened depth text hrest ih =>
    rintro ⟨mode, current, closed⟩ hlags hsilent
    cases mode with
    | top => exact ih (s := ⟨.comment false, current, closed⟩) (Nat.le_add_left 2 depth) hsilent
    | lineComment => exact ih (s := ⟨.lineComment, current, closed⟩) trivial hsilent
    | comment star =>
      cases star with
      | false => exact ih (s := ⟨.comment true, current, closed⟩) (Nat.le_add_left 2 depth) hsilent
      | true =>
        -- the slash closes for the scanner, and the star behind it is heard
        exact absurd hsilent
          (not_silent_push (s := ⟨.top, ' ' :: current, closed⟩) (c := '*') (by decide))
    | _ => exact hlags.elim
  | @closed depth text hrest ih =>
    rintro ⟨mode, current, closed⟩ hlags hsilent
    cases mode with
    | top =>
      exact absurd hsilent (not_silent_push (s := ⟨.top, current, closed⟩) (c := '*') (by decide))
    | lineComment => exact ih (s := ⟨.lineComment, current, closed⟩) trivial hsilent
    -- the scanner is back at top level, one comment too early
    | comment star =>
      have hdepth : 1 ≤ depth := Nat.le_of_succ_le_succ hlags
      cases star <;> exact ih (s := ⟨.top, ' ' :: current, closed⟩) hdepth hsilent
    | _ => exact hlags.elim
  | other _ hopen _ ih =>
    intro s hlags hsilent
    exact ih (lags_read hlags hopen (silent_of_run hsilent)) hsilent

/-- Up to the inner comment the scan and the brackets agree; from there on the scan lags. -/
theorem swallows_of_inner {depth : Nat} {text : List Char} (h : Nested depth text)
    (hdepth : depth = 1) (hinner : openingBracket <:+: text) :
    ∀ (star : Bool) (current : List Char) (closed : List (List Char)),
      (star = true → text.head? ≠ some '/') →
      ((Scanner.mk (.comment star) current closed).run text).Silent →
      ((Scanner.mk (.comment star) current closed).run text).mode.swallows = true := by
  induction h with
  | done => exact absurd hdepth (by decide)
  | @opened depth text hrest _ =>
    intro star current closed hstar hsilent
    cases star with
    | true => exact absurd rfl (hstar rfl)
    | false =>
      exact swallows_of_silent hrest (s := ⟨.comment true, current, closed⟩)
        (Nat.le_add_left 2 depth) hsilent
  | @closed depth text hrest _ =>
    obtain rfl : depth = 0 := by omega
    cases hrest
    exact absurd hinner (by decide)
  | @other depth c text hrest hopen hclose ih =>
    intro star current closed hstar
    have hin : openingBracket <:+: text := by
      refine (List.infix_cons_iff.1 hinner).resolve_left ?_
      rintro ⟨tail, heq⟩
      injection heq with hc htext
      exact hopen ⟨hc.symm, by rw [← htext]; rfl⟩
    -- no bracket closes here, for the scanner neither
    have hgoes : (star && c == '/') = false := by
      rw [Bool.eq_false_iff]
      intro hends
      rw [Bool.and_eq_true, beq_iff_eq] at hends
      exact hstar hends.1 (by rw [hends.2]; rfl)
    rw [run_cons]
    show ((if star && c == '/' then _ else _ : Scanner).run text).Silent →
      ((if star && c == '/' then _ else _ : Scanner).run text).mode.swallows = true
    rw [hgoes, if_neg Bool.false_ne_true]
    refine ih hdepth hin _ current closed ?_
    intro hc hhead
    exact hclose ⟨beq_iff_eq.1 hc, hhead⟩

/-! ## §4. Dropped comments -/

/-- A comment that stands at top level is one blank, up to its first closing bracket. -/
theorem fragments_comment {a : List Char} (ha : (Scanner.start.run a).mode.isTop = true)
    {body : List Char} (hbody : EndsFirst closingBracket body) (rest b : List Char) :
    fragments (a ++ comment (body ++ closingBracket ++ rest) ++ b)
      = fragments (a ++ ' ' :: (rest ++ b)) := by
  have hcomment : startsApart (comment (body ++ closingBracket ++ rest) ++ b) = true := by
    show isBoundary '/' = true
    decide
  have hblank : startsApart (' ' :: (rest ++ b)) = true := by
    show isBoundary ' ' = true
    decide
  have hsplit : comment (body ++ closingBracket ++ rest) ++ b
      = '/' :: '*' :: (body ++ closingBracket ++ (rest ++ b)) := by
    simp [comment]
  unfold fragments
  rw [List.append_assoc, run_append _ hcomment, run_append _ hblank, hsplit, run_comment ha hbody,
    run_cons, read_top ha]
  rfl

/-- The text of a comment holds a closing bracket. -/
theorem closing_of_nested {depth : Nat} {text : List Char} (h : Nested depth text)
    (hdepth : depth ≠ 0) : closingBracket <:+: text := by
  induction h with
  | done => exact absurd rfl hdepth
  | opened _ ih =>
    obtain ⟨p, q, rfl⟩ := ih (Nat.succ_ne_zero _)
    exact ⟨'/' :: '*' :: p, q, rfl⟩
  | @closed depth text _ _ => exact ⟨[], text, rfl⟩
  | other _ _ _ ih => exact List.infix_cons (ih (Nat.succ_ne_zero _))

/-- A comment with another in it is not dropped everywhere: alone in a script, or in front of a
    statement, it changes what comes out. -/
theorem not_dropped_of_inner {text : List Char} (h : Nested 1 text)
    (hinner : openingBracket <:+: text) :
    fragments (comment text) ≠ [] ∨
      fragments (comment text ++ [';', 'x']) ≠ fragments [' ', ';', 'x'] := by
  have hrun : Scanner.start.run (comment text) = (Scanner.mk (.comment false) [] []).run text := rfl
  by_cases hsilent : (Scanner.start.run (comment text)).Silent
  · right
    -- nothing comes out, so the scan is stuck in a comment and swallows the statement as well
    have hswallows :=
      swallows_of_inner h rfl hinner false [] [] (fun h => Bool.noConfusion h) hsilent
    have hx : startsApart [';', 'x'] = true := by decide
    have hdropped : fragments (comment text ++ [';', 'x']) = [] := by
      unfold fragments
      rw [run_append _ hx, hrun]
      rw [hrun] at hsilent
      rcases hend : (Scanner.mk (.comment false) [] []).run text with ⟨mode, current, closed⟩
      rw [hend] at hswallows hsilent
      have hcut : (Scanner.mk mode current closed).cut.closed = [] :=
        (closed_cut_eq_nil_iff _).2 hsilent
      cases mode with
      | lineComment => exact congrArg List.reverse hcut
      | comment star => cases star <;> exact congrArg List.reverse hcut
      | _ => exact Bool.noConfusion hswallows
    rw [hdropped]
    decide +kernel
  · left
    intro hnil
    refine hsilent ((closed_cut_eq_nil_iff _).1 ?_)
    exact List.reverse_eq_nil_iff.1 hnil

/-- **Which comments are dropped.**  A comment ends for the scanner at its first closing bracket,
    and what is left of it is read as text of the script.  So it is dropped wherever it stands at
    top level exactly if no other comment opens in it; then a script with the comment runs as the
    script without it. -/
theorem comment_dropped_iff {text : List Char} (h : Nested 1 text) :
    (∃ body rest, text = body ++ closingBracket ++ rest ∧ EndsFirst closingBracket body ∧
      ∀ a b, (Scanner.start.run a).mode.isTop = true →
        fragments (a ++ comment text ++ b) = fragments (a ++ ' ' :: (rest ++ b))) ∧
    ((∀ a b, (Scanner.start.run a).mode.isTop = true → a.getLast? ≠ some '/' →
        fragments (a ++ comment text ++ b) = fragments (a ++ ' ' :: b)) ↔
      ¬ openingBracket <:+: text) ∧
    (¬ openingBracket <:+: text → ∀ {σ : Type} (db : Database σ) (a b : List Char),
      (Scanner.start.run a).mode.isTop = true →
        Deployment.run db (a ++ comment text ++ b) = Deployment.run db (a ++ ' ' :: b)) := by
  have hflat : ¬ openingBracket <:+: text → ∀ a b, (Scanner.start.run a).mode.isTop = true →
      fragments (a ++ comment text ++ b) = fragments (a ++ ' ' :: b) := by
    intro hnone a b ha
    obtain ⟨body, rfl, hbody⟩ := endsFirst_of_nested h rfl hnone
    have hdropped := fragments_comment ha hbody [] b
    rw [List.append_nil, List.nil_append] at hdropped
    exact hdropped
  refine ⟨?_, ⟨?_, fun hnone a b ha _ => hflat hnone a b ha⟩, ?_⟩
  · obtain ⟨body, rest, htext, hbody⟩ := exists_endsFirst (closing_of_nested h (by decide))
    refine ⟨body, rest, htext, hbody, fun a b ha => ?_⟩
    rw [htext]
    exact fragments_comment ha hbody rest b
  · -- a comment with another in it shows, alone or in front of a statement
    intro hall hinner
    rcases not_dropped_of_inner h hinner with halone | hbefore
    · refine halone ?_
      have hnil := hall [] [] rfl (by decide)
      rw [List.nil_append, List.append_nil] at hnil
      rw [hnil]
      decide +kernel
    · exact hbefore (hall [] _ rfl (by decide))
  · intro hnone σ db a b ha
    rw [Deployment.run_eq, Deployment.run_eq, hflat hnone a b ha]

/-- The text of a comment that holds another and a semicolon behind it. -/
def innerFirst : List Char := [' ', '/', '*', ' ', '*', '/', ';', 'x', ' ', '*', '/']

theorem nested_innerFirst : Nested 1 innerFirst := by
  refine .other (.opened (.other (.closed (.other (.other (.other (.closed .done)
    ?_ ?_) ?_ ?_) ?_ ?_)) ?_ ?_)) ?_ ?_ <;> decide

/-- A statement in a comment comes out, and so does the bracket behind it. -/
theorem inner_comment_not_dropped :
    (Nested 1 innerFirst ∧ fragments (comment innerFirst) = [['x', ' ', '*', '/']]) ∧
      ¬ ∀ a b, (Scanner.start.run a).mode.isTop = true → a.getLast? ≠ some '/' →
        fragments (a ++ comment innerFirst ++ b) = fragments (a ++ ' ' :: b) :=
  ⟨⟨nested_innerFirst, by decide +kernel⟩,
    fun hall => (comment_dropped_iff nested_innerFirst).2.1.1 hall (by decide)⟩

end ScriptGate.Script
