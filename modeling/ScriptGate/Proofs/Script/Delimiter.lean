/-
  ScriptGate.Proofs.Script.Delimiter — texts that go on up to a closing delimiter.

  A bracketed comment and a dollar quote both end where their closing delimiter is completed for
  the first time.  The scanner knows the delimiter of a dollar quote and the last characters read;
  of a comment it only remembers whether the last character was a star.
  Main statements:
    - `run_comment`          — a comment is one blank, and it ends at its first closing bracket;
    - `run_dollar`           — a dollar quote is kept, and it ends at its first closing delimiter;
    - `run_unclosed_dollar`  — without a closing delimiter it goes on to the end.
-/
import ScriptGate.Proofs.Script.Boundary

namespace ScriptGate.Script

open ScriptGate.Text

/-! ## §1. The first delimiter -/

/-- Does `delimiter` behind `text` complete for the first time at the very end? -/
def EndsFirst (delimiter text : List Char) : Prop :=
  ∀ p q, text ++ delimiter = p ++ delimiter ++ q → q = []

/-- No shorter piece of the text ends in the delimiter. -/
theorem EndsFirst.not_suffix {delimiter text p q : List Char} (h : EndsFirst delimiter text)
    (heq : text ++ delimiter = p ++ q) (hq : q ≠ []) : ¬ delimiter <:+ p := by
  rintro ⟨front, rfl⟩
  exact hq (h front q heq)

theorem endsFirst_nil (delimiter : List Char) : EndsFirst delimiter [] := by
  intro p q heq
  have hlength := congrArg List.length heq
  simp only [List.length_append, List.length_nil] at hlength
  exact List.eq_nil_of_length_eq_zero (by omega)

theorem EndsFirst.cons {delimiter body : List Char} (h : EndsFirst delimiter body) {c : Char}
    (hc : ¬ delimiter <+: c :: (body ++ delimiter)) : EndsFirst delimiter (c :: body) := by
  intro p q heq
  cases p with
  | nil => exact absurd ⟨q, heq.symm⟩ hc
  | cons d p =>
    injection heq with _ heq
    exact h p q heq

/-- What is left of the text when its front is taken away goes on to the same place. -/
theorem EndsFirst.back {delimiter front back : List Char}
    (h : EndsFirst delimiter (front ++ back)) : EndsFirst delimiter back := by
  intro p q heq
  refine h (front ++ p) q ?_
  rw [List.append_assoc, heq]
  simp only [List.append_assoc]

/-- A text that holds the delimiter holds it for a first time. -/
theorem exists_endsFirst {delimiter text : List Char} (h : delimiter <:+: text) :
    ∃ body rest, text = body ++ delimiter ++ rest ∧ EndsFirst delimiter body := by
  induction text with
  | nil =>
    rw [List.infix_nil.1 h]
    exact ⟨[], [], rfl, endsFirst_nil []⟩
  | cons c rest ih =>
    -- the delimiter stands here, or its first place is further on
    by_cases hprefix : delimiter <+: c :: rest
    · obtain ⟨tail, htail⟩ := hprefix
      exact ⟨[], tail, htail.symm, endsFirst_nil delimiter⟩
    · have hrest : delimiter <:+: rest := (List.infix_cons_iff.1 h).resolve_left hprefix
      obtain ⟨body, tail, rfl, hfirst⟩ := ih hrest
      refine ⟨c :: body, tail, rfl, hfirst.cons ?_⟩
      exact fun hnow => hprefix (hnow.trans ⟨tail, rfl⟩)

/-! ## §2. Bracketed comments -/

/-- The bracket that opens a comment. -/
def openingBracket : List Char := ['/', '*']

/-- The bracket that closes a comment. -/
def closingBracket : List Char := ['*', '/']

/-- Is a star the last character? -/
def endsInStar (seen : List Char) : Bool := seen.getLast? == some '*'

theorem endsInStar_append (seen : List Char) (c : Char) :
    endsInStar (seen ++ [c]) = (c == '*') := by
  unfold endsInStar
  rw [List.getLast?_append]
  rfl

/-- Before its closing bracket is complete a comment goes on, and nothing of it is kept. -/
theorem run_inside_comment (current : List Char) (closed : List (List Char)) (w v : List Char) :
    ∀ seen : List Char,
      (∀ p q, w = p ++ q → p ≠ [] → ¬ closingBracket <:+ seen ++ p) →
      (Scanner.mk (.comment (endsInStar seen)) current closed).run (w ++ v)
        = (Scanner.mk (.comment (endsInStar (seen ++ w))) current closed).run v := by
  induction w with
  | nil =>
    intro seen _
    rw [List.append_nil]
    rfl
  | cons c rest ih =>
    intro seen h
    -- a slash behind a star would complete the closing bracket
    have hopen : (endsInStar seen && c == '/') = false := by
      rw [Bool.eq_false_iff]
      intro hclose
      rw [Bool.and_eq_true, beq_iff_eq] at hclose
      obtain ⟨hstar, rfl⟩ := hclose
      refine h ['/'] rest rfl (List.cons_ne_nil _ _) ?_
      unfold endsInStar at hstar
      rw [beq_iff_eq, List.getLast?_eq_some_iff] at hstar
      obtain ⟨front, rfl⟩ := hstar
      exact ⟨front, by rw [List.append_assoc]; rfl⟩
    have hread : (Scanner.mk (.comment (endsInStar seen)) current closed).read c (rest ++ v)
        = ⟨.comment (endsInStar (seen ++ [c])), current, closed⟩ := by
      rw [endsInStar_append]
      unfold Scanner.read
      dsimp only
      rw [hopen, if_neg Bool.false_ne_true]
    rw [List.cons_append, run_cons, hread, ih, List.append_assoc]
    · rfl
    · intro p q heq hp
      rw [List.append_assoc]
      exact h (c :: p) q (by rw [heq]; rfl) (List.cons_ne_nil _ _)

/-- **A comment is one blank, and it ends at its first closing bracket.** -/
theorem run_comment {s : Scanner} (hs : s.mode.isTop = true) {text : List Char}
    (h : EndsFirst closingBracket text) (v : List Char) :
    s.run ('/' :: '*' :: (text ++ closingBracket ++ v)) = (s.push ' ' .top).run v := by
  -- up to the last character the closing bracket has not been read
  have hinside := run_inside_comment s.current s.closed (text ++ ['*']) ('/' :: v) []
  rw [show endsInStar [] = false from rfl, List.nil_append, endsInStar_append] at hinside
  have hsplit : text ++ closingBracket ++ v = text ++ ['*'] ++ '/' :: v := by
    rw [List.append_assoc, List.append_assoc]
    rfl
  rw [hsplit, run_cons, run_cons, read_top hs]
  show (Scanner.mk (.comment false) s.current s.closed).run _ = _
  rw [hinside]
  · rfl
  · intro p q heq _
    have heq' : text ++ closingBracket = p ++ (q ++ ['/']) := by
      rw [← List.append_assoc, ← heq, List.append_assoc]
      rfl
    exact h.not_suffix heq' (by simp)

/-! ## §3. Dollar quotes -/

/-- Before its closing delimiter is complete a dollar quote goes on. -/
theorem run_inside_dollar (delimiter : List Char) (closed : List (List Char)) (w v : List Char) :
    ∀ seen current : List Char,
      (∀ p q, w = p ++ q → p ≠ [] → ¬ delimiter <:+ seen ++ p) →
      (Scanner.mk (.dollar delimiter.reverse 0 seen.reverse) current closed).run (w ++ v)
        = (Scanner.mk (.dollar delimiter.reverse 0 (seen ++ w).reverse) (w.reverse ++ current)
            closed).run v := by
  induction w with
  | nil =>
    intro seen current _
    rw [List.append_nil]
    rfl
  | cons c rest ih =>
    intro seen current h
    -- what is read so far ends in the delimiter if the delimiter read backwards begins it backwards
    have hopen : delimiter.reverse.isPrefixOf (c :: seen.reverse) = false := by
      rw [Bool.eq_false_iff]
      intro hclose
      refine h [c] rest rfl (List.cons_ne_nil _ _) ?_
      rw [List.isPrefixOf_iff_prefix] at hclose
      rw [← List.reverse_prefix, List.reverse_append]
      exact hclose
    have hread : (Scanner.mk (.dollar delimiter.reverse 0 seen.reverse) current closed).read c
          (rest ++ v)
        = ⟨.dollar delimiter.reverse 0 (seen ++ [c]).reverse, c :: current, closed⟩ := by
      unfold Scanner.read
      dsimp only
      rw [hopen, if_neg Bool.false_ne_true, List.reverse_append]
      rfl
    rw [List.cons_append, run_cons, hread, ih, List.append_assoc]
    · rw [List.reverse_cons, List.append_assoc]
      rfl
    · intro p q heq hp
      rw [List.append_assoc]
      exact h (c :: p) q (by rw [heq]; rfl) (List.cons_ne_nil _ _)

/-- As long as the opening delimiter goes on, nothing is looked for. -/
theorem run_opener (delimiter body : List Char) (closed : List (List Char)) (v : List Char)
    (n : Nat) :
    ∀ (w current : List Char),
      (Scanner.mk (.dollar delimiter (n + w.length) body) current closed).run (w ++ v)
        = (Scanner.mk (.dollar delimiter n body) (w.reverse ++ current) closed).run v := by
  intro w
  induction w with
  | nil => exact fun current => rfl
  | cons c rest ih =>
    intro current
    rw [List.cons_append, run_cons]
    show (Scanner.mk (.dollar delimiter (n + rest.length) body) (c :: current) closed).run _ = _
    rw [ih, List.reverse_cons, List.append_assoc]
    rfl

/-- **A dollar quote goes on** up to the end of a text in which its closing delimiter is not
    complete, the `n` characters left aside that still belong to the opening one. -/
theorem run_open_dollar {delimiter w : List Char} {n : Nat}
    (h : ∀ p q, w.drop n = p ++ q → p ≠ [] → ¬ delimiter <:+ p) (current : List Char)
    (closed : List (List Char)) (v : List Char) :
    (Scanner.mk (.dollar delimiter.reverse n []) current closed).run (w ++ v)
      = (Scanner.mk (.dollar delimiter.reverse (n - w.length) (w.drop n).reverse)
          (w.reverse ++ current) closed).run v := by
  by_cases hn : n ≤ w.length
  · -- the text goes on behind the opening delimiter
    have hopener := run_opener delimiter.reverse [] closed (w.drop n ++ v) 0 (w.take n) current
    have hinside := run_inside_dollar delimiter closed (w.drop n) v []
      ((w.take n).reverse ++ current) h
    rw [Nat.zero_add, List.length_take, Nat.min_eq_left hn, ← List.append_assoc,
      List.take_append_drop] at hopener
    rw [List.reverse_nil, List.nil_append] at hinside
    rw [hopener, hinside, ← List.append_assoc, ← List.reverse_append, List.take_append_drop,
      Nat.sub_eq_zero_of_le hn]
  · have hopener := run_opener delimiter.reverse [] closed v (n - w.length) w current
    rw [Nat.sub_add_cancel (by omega)] at hopener
    rw [hopener, List.drop_eq_nil_of_le (by omega)]
    rfl

/-- The delimiter of a dollar quote. -/
def dollarDelimiter (tag : List Char) : List Char := '$' :: tag ++ ['$']

theorem length_dollarDelimiter (tag : List Char) :
    (dollarDelimiter tag).length = tag.length + 2 := by
  simp [dollarDelimiter]

theorem dollarTag?_tag {tag : List Char} (h : tag.all isNameChar = true) (v : List Char) :
    dollarTag? (tag ++ '$' :: v) = some tag := by
  induction tag with
  | nil => rfl
  | cons c rest ih =>
    rw [List.all_cons, Bool.and_eq_true] at h
    rw [List.cons_append, dollarTag?_cons h.1, ih h.2]
    rfl

/-- A tag is read up to the dollar sign behind it. -/
theorem dollarTag?_eq_some {ahead tag : List Char} (h : dollarTag? ahead = some tag) :
    tag.all isNameChar = true ∧ ∃ rest, ahead = tag ++ '$' :: rest := by
  unfold dollarTag? at h
  split at h
  case h_1 rest hdrop =>
    injection h with h
    rw [← h]
    refine ⟨List.all_takeWhile, rest, ?_⟩
    rw [← hdrop, List.takeWhile_append_dropWhile]
  case h_2 => exact absurd h.symm (Option.some_ne_none tag)

theorem openerLength_cons (c : Char) (rest : List Char) :
    openerLength (c :: rest) = c.utf8Size + openerLength rest := by
  have hshift : ∀ (tag : List Char) (m n : Nat),
      tag.foldl (fun n c => n + c.utf8Size) (m + n)
        = m + tag.foldl (fun n c => n + c.utf8Size) n := by
    intro tag
    induction tag with
    | nil => exact fun m n => rfl
    | cons d tag ih =>
      intro m n
      rw [List.foldl_cons, List.foldl_cons, Nat.add_assoc, ih]
  unfold openerLength
  rw [List.foldl_cons, Nat.add_comm 1, hshift]

/-- It takes as many as the tag has bytes, and one for the dollar sign behind it. -/
theorem openerLength_eq_size (tag : List Char) :
    openerLength tag = (String.ofList tag).utf8ByteSize + 1 := by
  rw [← String.size_toByteArray, String.toByteArray_ofList]
  induction tag with
  | nil => rfl
  | cons c rest ih =>
    rw [openerLength_cons, ih, List.utf8Encode_cons, ByteArray.size_append,
      List.utf8Encode_singleton, List.size_toByteArray, String.length_utf8EncodeChar,
      Nat.add_assoc]

/-- The opening delimiter takes at least the tag and the dollar sign behind it. -/
theorem length_lt_openerLength (tag : List Char) : tag.length < openerLength tag := by
  induction tag with
  | nil => decide
  | cons c rest ih =>
    have hsize := Char.utf8Size_pos c
    rw [List.length_cons, openerLength_cons]
    omega

/-- Of ASCII characters it takes as many as there are. -/
theorem openerLength_ascii {tag : List Char} (h : ∀ c ∈ tag, isAscii c = true) :
    openerLength tag = tag.length + 1 := by
  induction tag with
  | nil => rfl
  | cons c rest ih =>
    obtain ⟨hc, hrest⟩ := List.forall_mem_cons.1 h
    have hsize : c.utf8Size = 1 := by
      rw [Char.utf8Size_eq_one_iff, UInt32.le_iff_toNat_le]
      rw [isAscii, decide_eq_true_eq] at hc
      exact Nat.le_of_lt_succ hc
    rw [openerLength_cons, hsize, ih hrest, List.length_cons, Nat.add_comm]

/-- The closing delimiter is complete with its last character. -/
theorem read_closing_dollar (delimiter seen current : List Char) (closed : List (List Char))
    (c : Char) (v : List Char) (h : delimiter <:+ seen ++ [c]) :
    (Scanner.mk (.dollar delimiter.reverse 0 seen.reverse) current closed).read c v
      = ⟨.top, c :: current, closed⟩ := by
  have hclose : delimiter.reverse.isPrefixOf (c :: seen.reverse) = true := by
    rw [List.isPrefixOf_iff_prefix]
    rw [← List.reverse_prefix, List.reverse_append] at h
    exact h
  unfold Scanner.read
  dsimp only
  rw [if_pos hclose]
  rfl

/-- The first dollar sign of a quote shows its tag. -/
theorem read_dollar {s : Scanner} (hs : s.mode.isTop = true)
    (hcurrent : s.current.head?.any isNameChar = false) {tag : List Char}
    (htag : tag.all isNameChar = true) (v : List Char) :
    s.read '$' (tag ++ '$' :: v)
      = ⟨.dollar (dollarDelimiter tag).reverse (openerLength tag) [], '$' :: s.current,
          s.closed⟩ := by
  rw [read_top hs]
  show Scanner.mk (dollarMode s.current _) ('$' :: s.current) s.closed = _
  unfold dollarMode
  rw [hcurrent, if_neg Bool.false_ne_true, dollarTag?_tag htag]
  simp [dollarDelimiter]

/-- **A dollar quote is kept, and it ends at its first closing delimiter** behind the characters
    that are read along with its opening delimiter. -/
theorem run_dollar {s : Scanner} (hs : s.mode.isTop = true)
    (hcurrent : s.current.head?.any isNameChar = false) {tag : List Char}
    (htag : tag.all isNameChar = true) {skipped body : List Char}
    (hlength : tag.length + 1 + skipped.length = openerLength tag)
    (h : EndsFirst (dollarDelimiter tag) body) (v : List Char) :
    let text := dollarDelimiter tag ++ skipped ++ body ++ dollarDelimiter tag
    s.run (text ++ v) = (Scanner.mk .top (text.reverse ++ s.current) s.closed).run v := by
  intro text
  -- what stands between the first dollar sign and the last one
  let inside := (tag ++ '$' :: skipped) ++ (body ++ '$' :: tag)
  have hsplit : text ++ v = '$' :: (inside ++ '$' :: v) := by
    simp [text, inside, dollarDelimiter]
  have htext : inside ++ '$' :: v = tag ++ '$' :: (skipped ++ body ++ '$' :: tag ++ '$' :: v) := by
    simp [inside]
  have hopener : (tag ++ '$' :: skipped).length = openerLength tag := by
    rw [← hlength, List.length_append, List.length_cons]
    omega
  have hdrop : inside.drop (openerLength tag) = body ++ '$' :: tag := List.drop_left' hopener
  have hopen : ∀ p q, inside.drop (openerLength tag) = p ++ q → p ≠ [] →
      ¬ dollarDelimiter tag <:+ p := by
    intro p q heq _
    rw [hdrop] at heq
    have heq' : body ++ dollarDelimiter tag = p ++ (q ++ ['$']) := by
      rw [← List.append_assoc, ← heq]
      simp [dollarDelimiter]
    exact h.not_suffix heq' (by simp)
  have hover : openerLength tag - inside.length = 0 := by
    rw [← hopener]
    exact Nat.sub_eq_zero_of_le (List.prefix_append _ _).length_le
  rw [hsplit, run_cons, htext, read_dollar hs hcurrent htag, ← htext, run_open_dollar hopen,
    run_cons, hdrop, hover, read_closing_dollar]
  · simp [text, inside, dollarDelimiter]
  · exact ⟨body, by simp [dollarDelimiter]⟩

/-- A text that holds the closing delimiter behind those characters holds it for a first time. -/
theorem exists_closing {tag text : List Char}
    (h : dollarDelimiter tag <:+: text.drop (openerLength tag - (tag.length + 1))) :
    ∃ skipped body back, text = skipped ++ body ++ dollarDelimiter tag ++ back ∧
      tag.length + 1 + skipped.length = openerLength tag ∧
      EndsFirst (dollarDelimiter tag) body := by
  obtain ⟨body, back, hdrop, hbody⟩ := exists_endsFirst h
  refine ⟨text.take (openerLength tag - (tag.length + 1)), body, back, ?_, ?_, hbody⟩
  · rw [List.append_assoc, List.append_assoc, ← List.append_assoc body, ← hdrop,
      List.take_append_drop]
  · have hlt := length_lt_openerLength tag
    have hleft := congrArg List.length hdrop
    rw [List.length_drop, List.length_append, List.length_append, length_dollarDelimiter] at hleft
    rw [List.length_take]
    omega

/-- **A dollar quote stays open** in a text that does not hold its closing delimiter behind the
    characters that are read along with the opening one. -/
theorem run_unclosed_dollar {s : Scanner} (hs : s.mode.isTop = true)
    (hcurrent : s.current.head?.any isNameChar = false) {tag : List Char}
    (htag : tag.all isNameChar = true) {text : List Char}
    (h : ¬ dollarDelimiter tag <:+: text.drop (openerLength tag - (tag.length + 1))) :
    ∃ opener body, s.run (dollarDelimiter tag ++ text)
      = ⟨.dollar (dollarDelimiter tag).reverse opener body,
          (dollarDelimiter tag ++ text).reverse ++ s.current, s.closed⟩ := by
  let inside := tag ++ '$' :: text
  have hsplit : dollarDelimiter tag ++ text = '$' :: inside := by
    simp [inside, dollarDelimiter]
  -- the first dollar sign is read by itself, and the rest of the delimiter lies inside
  have hdrop : inside.drop (openerLength tag)
      = text.drop (openerLength tag - (tag.length + 1)) := by
    have hlt := length_lt_openerLength tag
    obtain ⟨n, hn⟩ : ∃ n, openerLength tag = tag.length + (n + 1) :=
      ⟨openerLength tag - tag.length - 1, by omega⟩
    rw [hn, ← List.drop_drop, List.drop_left, List.drop_succ_cons]
    congr 1
    omega
  have hopen : ∀ p q, inside.drop (openerLength tag) = p ++ q → p ≠ [] →
      ¬ dollarDelimiter tag <:+ p := by
    intro p q heq _ hsuffix
    rw [hdrop] at heq
    rw [heq] at h
    exact h (hsuffix.isInfix.trans (List.prefix_append p q).isInfix)
  have hrun := run_open_dollar hopen ('$' :: s.current) s.closed []
  rw [List.append_nil, run_nil] at hrun
  refine ⟨openerLength tag - inside.length, (inside.drop (openerLength tag)).reverse, ?_⟩
  rw [hsplit, run_cons, read_dollar hs hcurrent htag, hrun, List.reverse_cons, List.append_assoc]
  rfl

end ScriptGate.Script
