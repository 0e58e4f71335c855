/-
  ScriptGate.Domain.Mark — letters and the marks they carry.

  A letter with a mark may be written in two ways, as one character or as two.  Names write it as
  one where there is one: letters are taken apart, the marks of a letter are brought into order,
  and every mark that can joins its letter again.
  Main statements:
    - `whole?_ascii`    — no ASCII character is a mark that joins a letter;
    - `composed_ascii`  — an ASCII text is composed already.
-/
import ScriptGate.Text.Class
import ScriptGate.Domain.MarkTable

namespace ScriptGate.Domain

open ScriptGate.Text

/-! ## §1. Classes -/

/-- Is this a mark? -/
def isMark (c : Char) : Bool :=
  !isAscii c && (inRanges nonSpacingRanges c.toNat || inRanges spacingRanges c.toNat)

/-- Where a mark stands around its letter; nought for letters and for marks that keep their
    place. -/
def markClass (c : Char) : Nat :=
  if isAscii c then 0
  else ((classRanges.find? fun r => inRanges r.2 c.toNat).map (·.1)).getD 0

/-! ## §2. Syllables of Hangul -/

/-- The syllable of an opening consonant and a vowel, or of a syllable and a closing consonant. -/
def syllable? (a b : Nat) : Option Nat :=
  if 0x1100 ≤ a && a < 0x1113 && 0x1161 ≤ b && b < 0x1176 then
    some (0xAC00 + ((a - 0x1100) * 21 + (b - 0x1161)) * 28)
  else if 0xAC00 ≤ a && a < 0xD7A4 && (a - 0xAC00) % 28 == 0 && 0x11A8 ≤ b && b < 0x11C3 then
    some (a + (b - 0x11A7))
  else none

/-- The two parts of a syllable. -/
def syllableParts? (n : Nat) : Option (Nat × Nat) :=
  if 0xAC00 ≤ n && n < 0xD7A4 then
    let m := n - 0xAC00
    if m % 28 == 0 then some (0x1100 + m / 588, 0x1161 + m % 588 / 28)
    else some (n - m % 28, 0x11A7 + m % 28)
  else none

/-! ## §3. Letters and marks -/

/-- The letters a mark joins, each with what it becomes. -/
def lettersUnder (words : String) : List (Char × Char) :=
  (words.toList.splitOn ' ').filterMap fun word =>
    match word with
    | [letter, whole] => some (letter, whole)
    | _ => none

/-- The one character for a letter and a mark behind it. -/
def whole? (letter mark : Char) : Option Char :=
  match syllable? letter.toNat mark.toNat with
  | some n => some (Char.ofNat n)
  | none =>
    markedLetters.findSome? fun r =>
      if r.1 == mark.toNat then (lettersUnder r.2).lookup letter else none

/-- A letter and its last mark. -/
def parts? (c : Char) : Option (Char × Char) :=
  if isAscii c then none
  else
    match syllableParts? c.toNat with
    | some (a, b) => some (Char.ofNat a, Char.ofNat b)
    | none =>
      markedLetters.findSome? fun r =>
        ((lettersUnder r.2).find? (·.2 == c)).map fun w => (w.1, Char.ofNat r.1)

/-- A letter with its marks written apart; a letter of a name carries no more than two. -/
def apart (c : Char) : List Char :=
  match parts? c with
  | none => [c]
  | some (letter, last) =>
    match parts? letter with
    | none => [letter, last]
    | some (bare, first) => [bare, first, last]

/-! ## §4. The order of marks -/

/-- Puts a character before marks in order: it passes the marks of lower classes. -/
def putMark (c : Char) : List Char → List Char
  | [] => [c]
  | d :: rest =>
    if 0 < markClass d && markClass d < markClass c then d :: putMark c rest else c :: d :: rest

/-- The marks behind every letter in the order of their classes. -/
def ordered (cs : List Char) : List Char := cs.foldr putMark []

/-! ## §5. Composition -/

/-- A text half composed. -/
structure Composition where
  /-- what is finished -/
  done : List Char
  /-- the letter that may still take marks -/
  letter : Option Char
  /-- marks behind the letter that did not join it -/
  marks : List Char

/-- Is the letter hidden from a mark of class `k` by the marks between? -/
def Composition.hides (s : Composition) (k : Nat) : Bool :=
  match s.marks.getLast? with
  | some m => k ≤ markClass m
  | none => false

/-- The text so far. -/
def Composition.text (s : Composition) : List Char := s.done ++ s.letter.toList ++ s.marks

/-- Takes the next character: it joins the letter, stands behind it, or opens a letter. -/
def Composition.take (s : Composition) (c : Char) : Composition :=
  let k := markClass c
  match s.letter.bind fun letter => if s.hides k then none else whole? letter c with
  | some whole => { s with letter := some whole }
  | none => if k == 0 then ⟨s.text, some c, []⟩ else { s with marks := s.marks ++ [c] }

/-- The text with every letter and its marks as one character where there is one. -/
def composed (cs : List Char) : List Char :=
  ((ordered (cs.flatMap apart)).foldl Composition.take ⟨[], none, []⟩).text

/-! ## §6. Inside ASCII -/

theorem markClass_ascii {c : Char} (h : isAscii c = true) : markClass c = 0 := if_pos h

/-- No ASCII character is a mark that joins a letter. -/
theorem whole?_ascii {letter mark : Char} (h : isAscii mark = true) :
    whole? letter mark = none := by
  have hn : mark.toNat < 0x80 := by simpa [isAscii] using h
  have hs : syllable? letter.toNat mark.toNat = none := by
    rw [syllable?, if_neg, if_neg]
    · simp only [Bool.and_eq_true, decide_eq_true_eq, not_and]; omega
    · simp only [Bool.and_eq_true, decide_eq_true_eq, not_and]; omega
  have hm : ∀ r ∈ markedLetters, 0x80 ≤ r.1 := by decide +kernel
  simp only [whole?, hs]
  rw [List.findSome?_eq_none_iff]
  intro r hr
  rw [if_neg]
  have := hm r hr
  simp only [beq_iff_eq]
  omega

theorem apart_ascii {c : Char} (h : isAscii c = true) : apart c = [c] := by
  simp [apart, parts?, h]

theorem ordered_ascii {cs : List Char} (h : cs.all isAscii = true) : ordered cs = cs := by
  induction cs with
  | nil => rfl
  | cons c rest ih =>
    simp only [List.all_cons, Bool.and_eq_true] at h
    rw [ordered, List.foldr_cons, ← ordered, ih h.2]
    cases rest with
    | nil => rfl
    | cons d rest => rw [putMark, markClass_ascii h.1]; simp

/-- An ASCII character opens a letter. -/
theorem Composition.take_ascii (s : Composition) {c : Char} (h : isAscii c = true) :
    s.take c = ⟨s.text, some c, []⟩ := by
  have hb : (s.letter.bind fun letter => if s.hides 0 then none else whole? letter c) = none := by
    cases s.letter with
    | none => rfl
    | some letter => simp [whole?_ascii h]
  simp [take, markClass_ascii h, hb]

theorem Composition.foldl_take_ascii {cs : List Char} (h : cs.all isAscii = true) :
    ∀ s : Composition, (cs.foldl take s).text = s.text ++ cs := by
  induction cs with
  | nil => intro s; simp
  | cons c rest ih =>
    intro s
    simp only [List.all_cons, Bool.and_eq_true] at h
    rw [List.foldl_cons, ih h.2, take_ascii s h.1]
    simp [text]

theorem flatMap_apart_ascii {cs : List Char} (h : cs.all isAscii = true) :
    cs.flatMap apart = cs := by
  induction cs with
  | nil => rfl
  | cons c rest ih =>
    simp only [List.all_cons, Bool.and_eq_true] at h
    rw [List.flatMap_cons, apart_ascii h.1, ih h.2]
    rfl

/-- An ASCII text is composed already. -/
theorem composed_ascii {cs : List Char} (h : cs.all isAscii = true) : composed cs = cs := by
  rw [composed, flatMap_apart_ascii h, ordered_ascii h, Composition.foldl_take_ascii h]
  rfl

end ScriptGate.Domain
