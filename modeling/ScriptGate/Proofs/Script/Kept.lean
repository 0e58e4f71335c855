/-
  ScriptGate.Proofs.Script.Kept — texts that the scanner keeps character by character.

  A text without comments and without a semicolon at top level comes out as it went in.  Blanks at
  its ends may be left out: below the open fragment they are as good as nothing, and at the end of a
  text none of them leads back to top level.  Below the open fragment any other text is as good as
  nothing too, if it does not end in a name, and behind a kept text so is whatever has no meaning at
  top level.
  Main statements:
    - `fragments_of_keeps`  — a kept text is one fragment;
    - `fragments_blank`     — a blank in front of a script makes no difference;
    - `keeps_trim`          — a kept text is kept when it is trimmed;
    - `keeps_around`        — and when text without marks is put around it.
-/
import ScriptGate.Proofs.Script.Output

namespace ScriptGate.Script

open ScriptGate.Text

/-! ## §1. Kept texts -/

/-- The scanner takes on every character of the text, and none of them closes the open
    fragment. -/
inductive Keeps : Scanner → List Char → Prop where
  | nil {s : Scanner} : Keeps s []
  | cons {s : Scanner} {c : Char} {ahead : List Char} : s.cutsAt c = false →
      s.takes c ahead = some c → Keeps (s.read c ahead) ahead → Keeps s (c :: ahead)

theorem keeps_cons {s : Scanner} {c : Char} {ahead : List Char} :
    Keeps s (c :: ahead) ↔
      s.cutsAt c = false ∧ s.takes c ahead = some c ∧ Keeps (s.read c ahead) ahead := by
  constructor
  · intro h
    cases h with
    | cons hcuts htakes hrest => exact ⟨hcuts, htakes, hrest⟩
  · rintro ⟨hcuts, htakes, hrest⟩
    exact .cons hcuts htakes hrest

/-- A text that is kept is written as it is, and no semicolon ends it. -/
theorem written_of_keeps {s : Scanner} {text : List Char} (h : Keeps s text) :
    written s text = text ∧ beyond s text = none := by
  induction h with
  | nil => exact ⟨rfl, rfl⟩
  | cons hcuts htakes _ ih =>
    unfold written beyond
    rw [hcuts, htakes, if_neg Bool.false_ne_true, if_neg Bool.false_ne_true, ih.1]
    exact ⟨rfl, ih.2⟩

/-- A text that is kept from the start is one fragment. -/
theorem fragments_of_keeps {text : List Char} (h : Keeps .start text) :
    fragments text = whole text := by
  obtain ⟨hwritten, hbeyond⟩ := written_of_keeps h
  rw [fragments_first, hwritten, hbeyond]
  exact List.append_nil _

/-- The open fragment takes on a text that is kept. -/
theorem current_of_keeps {s : Scanner} {text : List Char} (h : Keeps s text) :
    (s.run text).current = text.reverse ++ s.current := by
  induction h with
  | nil => rfl
  | @cons s c ahead hcuts htakes _ ih =>
    rw [run_cons, ih, (current_read hcuts ahead).1, htakes, List.reverse_cons, List.append_assoc]
    rfl

/-- Where the look-ahead ends, a text is kept if its two parts are. -/
theorem keeps_append {front back : List Char} (hback : startsApart back = true) :
    ∀ {s : Scanner}, Keeps s (front ++ back) ↔ Keeps s front ∧ Keeps (s.run front) back := by
  induction front with
  | nil => exact fun {s} => ⟨fun h => ⟨.nil, h⟩, fun h => h.2⟩
  | cons c rest ih =>
    intro s
    rw [List.cons_append, keeps_cons, keeps_cons, run_cons, (step_append s c hback).1,
      read_append s c hback, ih, and_assoc, and_assoc]

/-! ## §2. Text below the open fragment -/

/-- The scanner with more text below its open fragment. -/
def Scanner.over (s : Scanner) (below : List Char) : Scanner :=
  { s with current := s.current ++ below }

section

variable {below : List Char} (h : below.head?.any isNameChar = false)
include h

/-- Below the open fragment, what does not end in a name is as good as nothing. -/
theorem opensEscapes_over (current : List Char) :
    opensEscapes (current ++ below) = opensEscapes current := by
  cases below with
  | nil => rw [List.append_nil]
  | cons b below =>
    have hb : isNameChar b = false := h
    cases current with
    | nil =>
      -- the letter in front of an escape string is a character of a name
      have hE : b ≠ 'E' := by
        intro hE
        rw [hE] at hb
        exact absurd hb (by decide)
      have he : b ≠ 'e' := by
        intro he
        rw [he] at hb
        exact absurd hb (by decide)
      simp [opensEscapes, hE, he]
    | cons c current =>
      cases current with
      | nil => simp [opensEscapes, hb]
      | cons d current => rfl

theorem dollarMode_over (current ahead : List Char) :
    dollarMode (current ++ below) ahead = dollarMode current ahead := by
  cases current with
  | cons c current => rfl
  | nil =>
    unfold dollarMode
    rw [List.nil_append, h]
    rfl

/-- It stays there when a character is read. -/
theorem read_over {s : Scanner} {c : Char} (hcuts : s.cutsAt c = false) (ahead : List Char) :
    (s.over below).read c ahead = (s.read c ahead).over below := by
  have hcuts' : (s.over below).cutsAt c = false := hcuts
  have hquote : (s.over below).quoteKind = s.quoteKind := by
    unfold Scanner.quoteKind Scanner.over
    cases s.mode with
    | closed escapes => rfl
    | _ => exact opensEscapes_over h s.current
  have hbehind : (s.over below).modeBehind c ahead = s.modeBehind c ahead := by
    unfold Scanner.modeBehind
    rw [hquote, show (s.over below).current = s.current ++ below from rfl, dollarMode_over h]
  -- of the fragment only its last two characters have a say in where the scan goes on
  have hnext : (s.over below).next c ahead = s.next c ahead := by
    unfold Scanner.next
    rw [hbehind]
    rfl
  rw [read_step hcuts', read_step hcuts, hnext]
  unfold Scanner.grow Scanner.over
  rw [List.append_assoc]
  rfl

/-- It shows neither in what is written nor in what lies beyond it. -/
theorem written_over (input : List Char) :
    ∀ s : Scanner, written (s.over below) input = written s input ∧
      beyond (s.over below) input = beyond s input := by
  induction input with
  | nil => exact fun _ => ⟨rfl, rfl⟩
  | cons c ahead ih =>
    intro s
    unfold written beyond
    rw [show (s.over below).cutsAt c = s.cutsAt c from rfl,
      show (s.over below).takes c ahead = s.takes c ahead from rfl]
    -- what lies below is neither read nor written
    cases hcuts : s.cutsAt c with
    | true => exact ⟨rfl, rfl⟩
    | false =>
      obtain ⟨hwritten, hbeyond⟩ := ih (s.read c ahead)
      rw [if_neg Bool.false_ne_true, if_neg Bool.false_ne_true, if_neg Bool.false_ne_true,
        if_neg Bool.false_ne_true, read_over h hcuts, hwritten, hbeyond]
      exact ⟨rfl, rfl⟩

/-- **Text below the open fragment has no say in whether a text is kept.** -/
theorem keeps_over {text : List Char} :
    ∀ {s : Scanner}, Keeps (s.over below) text ↔ Keeps s text := by
  induction text with
  | nil => exact fun {s} => iff_of_true .nil .nil
  | cons c rest ih =>
    intro s
    rw [keeps_cons, keeps_cons]
    refine and_congr_right fun hcuts => ?_
    have hcuts' : s.cutsAt c = false := hcuts
    rw [read_over h hcuts', ih]
    exact Iff.rfl

/-- Nor in what the scan of a kept text does. -/
theorem run_over {s : Scanner} {text : List Char} (hkeeps : Keeps s text) :
    (s.over below).run text = (s.run text).over below := by
  induction hkeeps with
  | nil => rfl
  | @cons s c ahead hcuts _ _ ih => rw [run_cons, run_cons, read_over h hcuts, ih]

end

/-! ## §3. Text in front -/

theorem grown_push {s : Scanner} (hs : s.mode = .top) (c : Char) (rest : List Char) :
    (s.push c .top).grown rest = s.grown (c :: rest) := by
  unfold Scanner.grown Scanner.push
  rw [List.reverse_cons, List.append_assoc, hs]
  rfl

theorem grown_start (front : List Char) :
    Scanner.start.grown front = Scanner.start.over front.reverse :=
  congrArg (Scanner.mk .top · []) (List.append_nil _)

section

variable {front : List Char} (hfront : ∀ c ∈ front, isMark c = false)
include hfront

/-- What has no meaning at top level goes into the open fragment, and the scan stays where it is. -/
theorem run_unmarked (text : List Char) :
    ∀ {s : Scanner}, s.mode = .top → s.run (front ++ text) = (s.grown front).run text := by
  induction front with
  | nil => exact fun _ => rfl
  | cons c rest ih =>
    intro s hs
    obtain ⟨hc, hrest⟩ := List.forall_mem_cons.1 hfront
    have htop : s.mode.isTop = true := by rw [hs]; rfl
    rw [List.cons_append, run_cons, (read_plain htop hc _).2.2, ih hrest rfl, grown_push hs]

theorem keeps_unmarked_append {text : List Char} :
    ∀ {s : Scanner}, s.mode = .top → (Keeps s (front ++ text) ↔ Keeps (s.grown front) text) := by
  induction front with
  | nil => exact fun _ => Iff.rfl
  | cons c rest ih =>
    intro s hs
    obtain ⟨hc, hrest⟩ := List.forall_mem_cons.1 hfront
    have htop : s.mode.isTop = true := by rw [hs]; rfl
    obtain ⟨hcuts, hopens, hread⟩ := read_plain htop hc (rest ++ text)
    rw [List.cons_append, keeps_cons, hread, ih hrest rfl, grown_push hs]
    exact ⟨fun h => h.2.2, fun h => ⟨hcuts, (takes_top_eq_some htop).2 ⟨hopens, rfl⟩, h⟩⟩

variable (hlast : front.getLast?.any isNameChar = false) {text : List Char}
include hlast

/-- **A text is kept behind text without marks as it is kept alone**, if that does not end in a
    name. -/
theorem keeps_behind : Keeps .start (front ++ text) ↔ Keeps .start text := by
  have hbelow : front.reverse.head?.any isNameChar = false := by rw [List.head?_reverse, hlast]
  rw [keeps_unmarked_append hfront rfl, grown_start, keeps_over hbelow]

theorem run_behind (h : Keeps .start text) :
    Scanner.start.run (front ++ text) = (Scanner.start.run text).over front.reverse := by
  have hbelow : front.reverse.head?.any isNameChar = false := by rw [List.head?_reverse, hlast]
  rw [run_unmarked hfront text rfl, grown_start, run_over hbelow h]

end

/-- A blank in front of a script makes no difference to its fragments. -/
theorem fragments_blank {c : Char} (h : isBlank c = true) (script : List Char) :
    fragments (c :: script) = fragments script := by
  have hbelow : [c].head?.any isNameChar = false := isNameChar_of_isBlank h
  obtain ⟨hcuts, hopens, hread⟩ := read_plain (s := .start) rfl (isMark_of_isBlank h) script
  obtain ⟨hwritten, hbeyond⟩ := written_over hbelow script .start
  have hover : Scanner.start.push c .top = Scanner.start.over [c] := rfl
  have htrim : whole (c :: written .start script) = whole (written .start script) := by
    unfold whole trim trimStart
    rw [List.dropWhile_cons, if_pos h]
  rw [fragments_first, fragments_first, written, beyond, hcuts, takes_top rfl, hopens, hread, hover,
    hwritten, hbeyond]
  exact congrArg (· ++ _) htrim

/-- Blanks have no meaning at top level and end no name. -/
theorem unmarked_of_blank {blanks : List Char} (h : blanks.all isBlank = true) :
    (∀ c ∈ blanks, isMark c = false) ∧ blanks.getLast?.any isNameChar = false := by
  have hall := List.all_eq_true.1 h
  refine ⟨fun c hc => isMark_of_isBlank (hall c hc), ?_⟩
  cases hlast : blanks.getLast? with
  | none => rfl
  | some c => exact isNameChar_of_isBlank (hall c (List.mem_of_getLast? hlast))

/-! ## §4. Where the scan of a kept text stands -/

/-- Where a scan can stand that started at top level and keeps what it reads: outside of comments,
    and in a dollar quote only if the delimiter ends in a dollar sign. -/
def Mode.isPlain : Mode → Bool
  | .lineComment | .commentBracket | .comment _ => false
  | .dollar delimiter _ _ => delimiter.head? == some '$'
  | _ => true

theorem isPlain_of_isTop {mode : Mode} (h : mode.isTop = true) : mode.isPlain = true := by
  cases mode with
  | top => rfl
  | closed escapes => rfl
  | _ => exact Bool.noConfusion h

theorem gives_of_isPlain {mode : Mode} (h : mode.isPlain = true) (c : Char) :
    mode.gives c = some c := by
  cases mode with
  | lineComment => exact Bool.noConfusion h
  | commentBracket => exact Bool.noConfusion h
  | comment star => exact Bool.noConfusion h
  | _ => rfl

/-- Inside of something that is no comment everything is taken on. -/
theorem takes_inside {s : Scanner} (hplain : s.mode.isPlain = true) (hs : s.mode.isTop = false)
    (c : Char) (ahead : List Char) : s.takes c ahead = some c := by
  rw [Scanner.takes, hs, if_neg Bool.false_ne_true]
  exact gives_of_isPlain hplain c

theorem isPlain_modeBehind (s : Scanner) (c : Char) (ahead : List Char) :
    (s.modeBehind c ahead).isPlain = true := by
  unfold Scanner.modeBehind
  split
  case h_3 =>
    unfold dollarMode
    split
    · rfl
    · split <;> rfl
  all_goals rfl

theorem isPlain_inside {mode : Mode} (h : mode.isPlain = true) (c : Char) :
    (mode.inside c).isPlain = true := by
  -- no mode but top level opens a comment
  cases mode with
  | top => rfl
  | closed escapes => rfl
  | literal escapes =>
    show Mode.isPlain (if c == '\'' then _ else if c == '\\' && escapes then _ else _) = true
    split
    · rfl
    · split <;> rfl
  | shielded => rfl
  | quoted =>
    show Mode.isPlain (if c == '"' then _ else _) = true
    split <;> rfl
  | dollar delimiter opener body =>
    cases opener with
    | succ n => exact h
    | zero =>
      show Mode.isPlain (if delimiter.isPrefixOf (c :: body) then _ else _) = true
      split
      · rfl
      · exact h
  | lineComment => exact Bool.noConfusion h
  | commentBracket => exact Bool.noConfusion h
  | comment star => exact Bool.noConfusion h

theorem isPlain_read {s : Scanner} {c : Char} {ahead : List Char} (hs : s.mode.isPlain = true)
    (hcuts : s.cutsAt c = false) (htakes : s.takes c ahead = some c) :
    (s.read c ahead).mode.isPlain = true := by
  cases htop : s.mode.isTop with
  | true =>
    obtain ⟨hopens, _⟩ := (takes_top_eq_some htop).1 htakes
    rw [read_kept htop hcuts hopens]
    exact isPlain_modeBehind s c ahead
  | false =>
    rw [read_inside htop]
    exact isPlain_inside hs c

theorem isPlain_run {text : List Char} :
    ∀ {s : Scanner}, s.mode.isPlain = true → Keeps s text → (s.run text).mode.isPlain = true := by
  induction text with
  | nil => exact fun hs _ => hs
  | cons c rest ih =>
    intro s hs h
    obtain ⟨hcuts, htakes, hrest⟩ := keeps_cons.1 h
    exact ih (isPlain_read hs hcuts htakes) hrest

/-! ## §5. What closes nothing -/

/-- The character ends no literal, no quoted identifier and no dollar quote. -/
def ClosesNothing (c : Char) : Prop := c ≠ '\'' ∧ c ≠ '"' ∧ c ≠ '$'

theorem closesNothing_of_isBlank {c : Char} (h : isBlank c = true) : ClosesNothing c :=
  ⟨ne_of_isBlank h (by decide), ne_of_isBlank h (by decide), ne_of_isBlank h (by decide)⟩

/-- A character that closes nothing does not lead back to top level. -/
theorem isTop_inside {mode : Mode} (h : mode.isPlain = true) (htop : mode.isTop = false)
    {c : Char} (hc : ClosesNothing c) : (mode.inside c).isTop = false := by
  obtain ⟨hquote, hdouble, hdollar⟩ := hc
  cases mode with
  | top => exact Bool.noConfusion htop
  | closed escapes => exact Bool.noConfusion htop
  | literal escapes =>
    show Mode.isTop (if c == '\'' then _ else if c == '\\' && escapes then _ else _) = false
    rw [beq_eq_false_iff_ne.2 hquote, if_neg Bool.false_ne_true]
    split <;> rfl
  | shielded => rfl
  | quoted =>
    show Mode.isTop (if c == '"' then _ else _) = false
    rw [beq_eq_false_iff_ne.2 hdouble]
    rfl
  | dollar delimiter opener body =>
    cases opener with
    | succ n => rfl
    | zero =>
      -- the delimiter is read backwards: it begins with a dollar sign
      cases delimiter with
      | nil => exact Bool.noConfusion h
      | cons d delimiter =>
        have hd : d = '$' := Option.some.inj (beq_iff_eq.1 h)
        show Mode.isTop (if (d :: delimiter).isPrefixOf (c :: body) then _ else _) = false
        rw [List.isPrefixOf_cons_cons, hd, beq_eq_false_iff_ne.2 hdollar.symm, Bool.false_and]
        rfl
  | lineComment => exact Bool.noConfusion h
  | commentBracket => exact Bool.noConfusion h
  | comment star => exact Bool.noConfusion h

theorem isTop_of_read {s : Scanner} (hs : s.mode.isPlain = true) {c : Char}
    (hc : ClosesNothing c) {ahead : List Char} (h : (s.read c ahead).mode.isTop = true) :
    s.mode.isTop = true := by
  cases htop : s.mode.isTop with
  | true => rfl
  | false =>
    rw [read_inside htop] at h
    have hinside : (s.mode.inside c).isTop = true := h
    rw [isTop_inside hs htop hc] at hinside
    exact hinside

/-- A scan that ends at top level behind text that closes nothing was there in front of it. -/
theorem isTop_of_run {back : List Char} :
    ∀ {s : Scanner}, (∀ c ∈ back, ClosesNothing c) → s.mode.isPlain = true → Keeps s back →
      (s.run back).mode.isTop = true → s.mode.isTop = true := by
  induction back with
  | nil => exact fun _ _ _ h => h
  | cons c rest ih =>
    intro s hback hs hkeeps htop
    obtain ⟨hc, hrest⟩ := List.forall_mem_cons.1 hback
    obtain ⟨hcuts, htakes, hkept⟩ := keeps_cons.1 hkeeps
    exact isTop_of_read hs hc (ih hrest (isPlain_read hs hcuts htakes) hkept htop)

/-- **Trimming a kept text keeps it**, and the scan of the trimmed text ends at top level if that
    of the text does. -/
theorem keeps_trim {text : List Char} (h : Keeps .start text) :
    Keeps .start (trim text) ∧
      ((Scanner.start.run text).mode.isTop = true →
        (Scanner.start.run (trim text)).mode.isTop = true) := by
  obtain ⟨front, back, htext, hfront, hback⟩ := exists_trim text
  have happend : text = front ++ (trim text ++ back) := by
    rw [← List.append_assoc]
    exact htext
  rw [happend] at h
  obtain ⟨hmarks, hlast⟩ := unmarked_of_blank hfront
  have hkeeps := (keeps_behind hmarks hlast).1 h
  have hapart := startsApart_of_blank hback
  obtain ⟨htrim, hblanks⟩ := (keeps_append hapart).1 hkeeps
  refine ⟨htrim, ?_⟩
  intro htop
  -- the blanks at the end have not led to top level, so the scan was there before them
  rw [happend, run_behind hmarks hlast hkeeps] at htop
  have htop : (Scanner.start.run (trim text ++ back)).mode.isTop = true := htop
  rw [run_append _ hapart] at htop
  have hcloses : ∀ c ∈ back, ClosesNothing c := fun c hc =>
    closesNothing_of_isBlank (List.all_eq_true.1 hback c hc)
  exact isTop_of_run hcloses (isPlain_run rfl htrim) hblanks htop

/-! ## §6. Text around a kept text -/

/-- What has no meaning at top level is kept wherever the scan of a kept text stands. -/
theorem keeps_unmarked {text : List Char} :
    ∀ {s : Scanner}, s.mode.isPlain = true → (∀ c ∈ text, isMark c = false) → Keeps s text := by
  induction text with
  | nil => exact fun _ _ => .nil
  | cons c rest ih =>
    intro s hs htext
    obtain ⟨hc, hrest⟩ := List.forall_mem_cons.1 htext
    have hkept : s.cutsAt c = false ∧ s.takes c rest = some c := by
      cases htop : s.mode.isTop with
      | true =>
        obtain ⟨hcuts, hopens, _⟩ := read_plain htop hc rest
        exact ⟨hcuts, (takes_top_eq_some htop).2 ⟨hopens, rfl⟩⟩
      | false => exact ⟨not_cutsAt htop c, takes_inside hs htop c rest⟩
    obtain ⟨hcuts, htakes⟩ := hkept
    exact .cons hcuts htakes (ih (isPlain_read hs hcuts htakes) hrest)

/-- **A kept text is kept when text without marks is put around it**, where the look-ahead ends
    between the two. -/
theorem keeps_around {front text back : List Char} (hfront : ∀ c ∈ front, isMark c = false)
    (hlast : front.getLast?.any isNameChar = false) (hback : ∀ c ∈ back, isMark c = false)
    (hapart : startsApart back = true) (h : Keeps .start text) :
    Keeps .start (front ++ text ++ back) := by
  have hbehind : Keeps .start (front ++ text) := (keeps_behind hfront hlast).2 h
  exact (keeps_append hapart).2 ⟨hbehind, keeps_unmarked (isPlain_run rfl hbehind) hback⟩

end ScriptGate.Script
