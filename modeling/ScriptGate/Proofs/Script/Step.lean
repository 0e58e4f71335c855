/-
  ScriptGate.Proofs.Script.Step — what reading one character does.

  A semicolon at top level closes the open fragment.  Any other character changes two things: the
  fragment takes on at most one character, and the scan goes on somewhere.  Only at top level both
  may depend on the text ahead.
  Main statements:
    - `read_cutsAt`  — the character that closes the open fragment;
    - `read_step`    — any other one, by what is taken on and where the scan goes on;
    - `read_plain`   — most characters are taken on at top level, and the scan stays there.
-/
import ScriptGate.Script.Scan

namespace ScriptGate.Script

open ScriptGate.Text

/-! ## §1. Blanks -/

/-- Do no two ranges of the tables overlap? -/
def areApart (table other : List (Nat × Nat)) : Bool :=
  table.all fun r => other.all fun q => decide (r.2 < q.1) || decide (q.2 < r.1)

/-- Tables that do not overlap have no number in common. -/
theorem inRanges_of_areApart {table other : List (Nat × Nat)} (h : areApart table other = true)
    {n : Nat} (hn : inRanges table n = true) : inRanges other n = false := by
  rw [Bool.eq_false_iff]
  intro hother
  simp only [inRanges, List.any_eq_true, Bool.and_eq_true, decide_eq_true_eq] at hn hother
  obtain ⟨r, hr, hlow, hhigh⟩ := hn
  obtain ⟨q, hq, hlow', hhigh'⟩ := hother
  have happart := List.all_eq_true.1 (List.all_eq_true.1 h r hr) q hq
  rw [Bool.or_eq_true, decide_eq_true_eq, decide_eq_true_eq] at happart
  omega

/-- No blank belongs to a name. -/
theorem isNameChar_of_isBlank {c : Char} (h : isBlank c = true) : isNameChar c = false := by
  by_cases hc : isAscii c = true
  · have key : ∀ n, n < 128 → isBlank (Char.ofNat n) = true →
        isNameChar (Char.ofNat n) = false := by
      decide +kernel
    have hP : isBlank c = true → isNameChar c = false :=
      forall_ascii (P := fun c => isBlank c = true → isNameChar c = false) key hc
    exact hP h
  · have hn : inRanges blankRanges c.toNat = true := by simpa [isBlank, hc] using h
    -- beyond ASCII the tables of blanks, letters and numbers do not overlap
    have hletter : inRanges alphabeticRanges c.toNat = false :=
      inRanges_of_areApart (by decide +kernel) hn
    have hnumber : inRanges numericRanges c.toNat = false :=
      inRanges_of_areApart (by decide +kernel) hn
    have hne : c ≠ '_' := by
      intro he
      subst he
      exact absurd (show isAscii '_' = true by decide) hc
    simp [isNameChar, isAlphanumeric, isAlphabetic, isNumeric, hc, hletter, hnumber, hne]

/-- A character that is no blank differs from every blank. -/
theorem ne_of_isBlank {c d : Char} (h : isBlank c = true) (hd : isBlank d = false) : c ≠ d := by
  intro he
  rw [he, hd] at h
  exact Bool.noConfusion h

/-! ## §2. One character -/

/-- Does a comment open with `c`? -/
def opensComment (c : Char) (ahead : List Char) : Bool :=
  (c == '-' && ahead.head? == some '-') || (c == '/' && ahead.head? == some '*')

namespace Mode

/-- Where the scan goes on behind `c` inside of something. -/
def inside (c : Char) : Mode → Mode
  | literal escapes =>
    if c == '\'' then closed escapes
    else if c == '\\' && escapes then shielded
    else literal escapes
  | shielded => literal true
  | quoted => if c == '"' then top else quoted
  | dollar delimiter (n + 1) body => dollar delimiter n body
  | dollar delimiter 0 body =>
    if delimiter.isPrefixOf (c :: body) then top else dollar delimiter 0 (c :: body)
  | lineComment => if c == '\n' then top else lineComment
  | commentBracket => comment false
  | comment star => if star && c == '/' then top else comment (c == '*')
  | mode => mode

/-- What the open fragment takes on when `c` is read inside of something. -/
def gives (c : Char) : Mode → Option Char
  | lineComment => if c == '\n' then some c else none
  | commentBracket => none
  | comment star => if star && c == '/' then some ' ' else none
  | _ => some c

end Mode

namespace Scanner

/-- The kind of literal that a quote opens at top level. -/
def quoteKind (s : Scanner) : Bool :=
  match s.mode with
  | .closed escapes => escapes
  | _ => opensEscapes s.current

/-- Does reading `c` close the open fragment? -/
def cutsAt (s : Scanner) (c : Char) : Bool := s.mode.isTop && c == ';'

/-- What the open fragment takes on when `c` is read and does not close it. -/
def takes (s : Scanner) (c : Char) (ahead : List Char) : Option Char :=
  if s.mode.isTop then if opensComment c ahead then none else some c
  else s.mode.gives c

/-- Where the scan goes on behind a character at top level that opens no comment. -/
def modeBehind (s : Scanner) (c : Char) (ahead : List Char) : Mode :=
  match c with
  | '\'' => .literal s.quoteKind
  | '"' => .quoted
  | '$' => dollarMode s.current ahead
  | _ => .top

/-- Where the scan goes on behind a character that does not close the open fragment. -/
def next (s : Scanner) (c : Char) (ahead : List Char) : Mode :=
  if s.mode.isTop then
    if opensComment c ahead then if c == '-' then .lineComment else .commentBracket
    else s.modeBehind c ahead
  else s.mode.inside c

/-- The open fragment takes on one character or none, and the scan goes on in `mode`. -/
def grow (s : Scanner) (taken : Option Char) (mode : Mode) : Scanner :=
  { s with mode, current := taken.toList ++ s.current }

end Scanner

/-! ## §3. The step -/

theorem read_top {s : Scanner} (h : s.mode.isTop = true) (c : Char) (ahead : List Char) :
    s.read c ahead = readTop s s.quoteKind c ahead := by
  unfold Scanner.read Scanner.quoteKind
  cases hm : s.mode with
  | top => rfl
  | closed escapes => rfl
  | _ => rw [hm] at h; exact Bool.noConfusion h

theorem read_semicolon {s : Scanner} (h : s.mode.isTop = true) (ahead : List Char) :
    s.read ';' ahead = s.cut := by
  rw [read_top h]
  rfl

theorem cutsAt_eq_true_iff {s : Scanner} {c : Char} :
    s.cutsAt c = true ↔ s.mode.isTop = true ∧ c = ';' := by
  unfold Scanner.cutsAt
  rw [Bool.and_eq_true, beq_iff_eq]

/-- A character that closes the open fragment. -/
theorem read_cutsAt {s : Scanner} {c : Char} (h : s.cutsAt c = true) (ahead : List Char) :
    s.read c ahead = s.cut := by
  obtain ⟨htop, rfl⟩ := cutsAt_eq_true_iff.1 h
  exact read_semicolon htop ahead

theorem readTop_opens {s : Scanner} {quote : Bool} {c : Char} {ahead : List Char}
    (h : opensComment c ahead = true) :
    readTop s quote c ahead
      = { s with mode := if c == '-' then .lineComment else .commentBracket } := by
  rw [opensComment, Bool.or_eq_true, Bool.and_eq_true, Bool.and_eq_true] at h
  rcases h with ⟨hc, hahead⟩ | ⟨hc, hahead⟩ <;> rw [beq_iff_eq.1 hc]
  · show (if _ then _ else _) = _
    rw [if_pos hahead]
    rfl
  · show (if _ then _ else _) = _
    rw [if_pos hahead]
    rfl

theorem readTop_kept {s : Scanner} {c : Char} {ahead : List Char} (hc : c ≠ ';')
    (h : opensComment c ahead = false) :
    readTop s s.quoteKind c ahead = s.push c (s.modeBehind c ahead) := by
  unfold readTop
  split
  case h_1 => rfl
  case h_2 => rfl
  case h_3 => rfl
  case h_4 => exact absurd rfl hc
  case h_5 =>
    have ha : ¬ (ahead.head? == some '-') = true := by simpa [opensComment] using h
    rw [if_neg ha]
    rfl
  case h_6 =>
    have ha : ¬ (ahead.head? == some '*') = true := by simpa [opensComment] using h
    rw [if_neg ha]
    rfl
  case h_7 h₁ h₂ h₃ _ _ _ =>
    unfold Scanner.modeBehind
    split
    · exact absurd rfl h₁
    · exact absurd rfl h₂
    · exact absurd rfl h₃
    · rfl

/-- **Reading a character that does not close the open fragment.** -/
theorem read_step {s : Scanner} {c : Char} (h : s.cutsAt c = false) (ahead : List Char) :
    s.read c ahead = s.grow (s.takes c ahead) (s.next c ahead) := by
  unfold Scanner.takes Scanner.next
  cases htop : s.mode.isTop with
  | true =>
    -- at top level a comment opens, or the character is kept
    rw [if_pos rfl, if_pos rfl, read_top htop]
    cases hopens : opensComment c ahead with
    | true => exact readTop_opens hopens
    | false =>
      have hc : c ≠ ';' := by
        rintro rfl
        rw [cutsAt_eq_true_iff.2 ⟨htop, rfl⟩] at h
        exact Bool.noConfusion h
      exact readTop_kept hc hopens
  | false =>
    rw [if_neg Bool.false_ne_true, if_neg Bool.false_ne_true]
    -- inside of something the two functions follow the scanner case by case
    unfold Scanner.read
    cases hm : s.mode with
    | top => rw [hm] at htop; exact Bool.noConfusion htop
    | closed escapes => rw [hm] at htop; exact Bool.noConfusion htop
    | literal escapes =>
      unfold Mode.inside
      dsimp only
      split
      · rfl
      · split <;> rfl
    | dollar delimiter opener body => cases opener <;> rfl
    | lineComment =>
      unfold Mode.inside Mode.gives
      dsimp only
      split
      · rfl
      · rw [Scanner.grow, ← hm]
        rfl
    | comment star =>
      unfold Mode.inside Mode.gives
      dsimp only
      split <;> rfl
    | shielded => rfl
    | quoted => rfl
    | commentBracket => rfl

/-- What the open fragment takes on when a character is read. -/
theorem current_read {s : Scanner} {c : Char} (h : s.cutsAt c = false) (ahead : List Char) :
    (s.read c ahead).current = (s.takes c ahead).toList ++ s.current ∧
      (s.read c ahead).closed = s.closed := by
  rw [read_step h]
  exact ⟨rfl, rfl⟩

/-- Inside of something no character closes the open fragment. -/
theorem not_cutsAt {s : Scanner} (h : s.mode.isTop = false) (c : Char) : s.cutsAt c = false := by
  rw [Scanner.cutsAt, h, Bool.false_and]

/-- Inside of something the text ahead does not matter. -/
theorem read_inside {s : Scanner} (h : s.mode.isTop = false) (c : Char) (ahead : List Char) :
    s.read c ahead = s.grow (s.mode.gives c) (s.mode.inside c) := by
  rw [read_step (not_cutsAt h c), Scanner.takes, Scanner.next, h]
  rfl

/-! ## §4. Top level -/

theorem takes_top {s : Scanner} (h : s.mode.isTop = true) (c : Char) (ahead : List Char) :
    s.takes c ahead = if opensComment c ahead then none else some c := by
  rw [Scanner.takes, if_pos h]

theorem takes_top_eq_none {s : Scanner} (h : s.mode.isTop = true) {c : Char} {ahead : List Char} :
    s.takes c ahead = none ↔ opensComment c ahead = true := by
  rw [takes_top h]
  cases opensComment c ahead <;> simp

theorem takes_top_eq_some {s : Scanner} (h : s.mode.isTop = true) {c d : Char}
    {ahead : List Char} : s.takes c ahead = some d ↔ opensComment c ahead = false ∧ d = c := by
  rw [takes_top h]
  cases opensComment c ahead <;> simp [eq_comm]

theorem read_kept {s : Scanner} (hs : s.mode.isTop = true) {c : Char} {ahead : List Char}
    (hcuts : s.cutsAt c = false) (hopens : opensComment c ahead = false) :
    s.read c ahead = s.push c (s.modeBehind c ahead) := by
  rw [read_step hcuts, takes_top hs, Scanner.next, if_pos hs, hopens]
  rfl

/-- Does a character mean more at top level than itself? -/
def isMark (c : Char) : Bool := ['\'', '"', '$', ';', '-', '/'].contains c

/-- Most characters are taken on at top level, and the scan stays there. -/
theorem read_plain {s : Scanner} (hs : s.mode.isTop = true) {c : Char} (hc : isMark c = false)
    (ahead : List Char) :
    s.cutsAt c = false ∧ opensComment c ahead = false ∧ s.read c ahead = s.push c .top := by
  simp only [isMark, List.contains_cons, Bool.or_eq_false_iff, beq_eq_false_iff_ne] at hc
  obtain ⟨hquote, hdouble, hdollar, hsemicolon, hminus, hslash, _⟩ := hc
  have hcuts : s.cutsAt c = false := by
    rw [Scanner.cutsAt, beq_eq_false_iff_ne.2 hsemicolon, Bool.and_false]
  have hopens : opensComment c ahead = false := by
    rw [opensComment, beq_eq_false_iff_ne.2 hminus, beq_eq_false_iff_ne.2 hslash]
    rfl
  refine ⟨hcuts, hopens, ?_⟩
  rw [read_kept hs hcuts hopens]
  unfold Scanner.modeBehind
  split
  · exact absurd rfl hquote
  · exact absurd rfl hdouble
  · exact absurd rfl hdollar
  · rfl

/-- A mark is neither a blank nor part of a name. -/
theorem class_of_isMark {c : Char} (h : isMark c = true) :
    isBlank c = false ∧ isNameChar c = false := by
  simp only [isMark, List.contains_cons, List.contains_nil, Bool.or_false, Bool.or_eq_true,
    beq_iff_eq] at h
  rcases h with rfl | rfl | rfl | rfl | rfl | rfl <;> decide

theorem isMark_of_isBlank {c : Char} (h : isBlank c = true) : isMark c = false := by
  rw [Bool.eq_false_iff]
  intro hc
  rw [(class_of_isMark hc).1] at h
  exact Bool.noConfusion h

theorem isMark_of_isNameChar {c : Char} (h : isNameChar c = true) : isMark c = false := by
  rw [Bool.eq_false_iff]
  intro hc
  rw [(class_of_isMark hc).2] at h
  exact Bool.noConfusion h

end ScriptGate.Script
