/-
  ScriptGate.Proofs.Text.Blank — blanks in front of a text, behind it and around it.

  Blanks are a class of their own: none of them belongs to a word, and none of them has a capital
  form.  So what is said of a text in capitals, word by word, is not changed by the blanks that
  stand around it, and trimming stops at the first character that is no blank.
  Main statements:
    - `isWordChar_of_isBlank`  — no blank belongs to a word;
    - `upperOf_of_isBlank`     — a blank has no capital form;
    - `trim_around`            — trimming does not get into a text with other ends.
-/
import ScriptGate.Proofs.Script.Step
import ScriptGate.Text.Case

namespace ScriptGate.Text

open ScriptGate.Script

/-! ## §1. Words and capitals -/

/-- No blank belongs to a word. -/
theorem isWordChar_of_isBlank {c : Char} (h : isBlank c = true) : isWordChar c = false := by
  have hname := isNameChar_of_isBlank h
  by_cases hc : isAscii c = true
  · rw [isWordChar_ascii hc, hname]
  · have hn : inRanges blankRanges c.toNat = true := by simpa [isBlank, hc] using h
    have hletter : inRanges alphabeticRanges c.toNat = false := by
      simp only [isNameChar, isAlphanumeric, isAlphabetic, hc, Bool.false_eq_true, if_false,
        Bool.or_eq_false_iff] at hname
      exact hname.1.1
    have hjoiner : inRanges joinerRanges c.toNat = false :=
      inRanges_of_areApart (by decide +kernel) hn
    simp [isWordChar, hc, hletter, hjoiner]

/-- The numbers of the blanks beyond ASCII. -/
def blankNumbers : List Nat := blankRanges.flatMap fun r => List.range' r.1 (r.2 + 1 - r.1)

/-- A blank has no capital form. -/
theorem upperOf_of_isBlank {c : Char} (h : isBlank c = true) : upperOf c = [c] := by
  by_cases hc : isAscii c = true
  · have key : ∀ n, n < 128 → isBlank (Char.ofNat n) = true →
        (Char.ofNat n).toUpper = Char.ofNat n := by
      decide +kernel
    have hupper : isBlank c = true → c.toUpper = c :=
      forall_ascii (P := fun c => isBlank c = true → c.toUpper = c) key hc
    rw [upperOf_ascii hc, hupper h]
  · -- the blanks beyond ASCII are few, and each of them is looked up
    have key : ∀ n ∈ blankNumbers, upperOf (Char.ofNat n) = [Char.ofNat n] := by
      decide +kernel
    have hn : inRanges blankRanges c.toNat = true := by simpa [isBlank, hc] using h
    simp only [inRanges, List.any_eq_true, Bool.and_eq_true, decide_eq_true_eq] at hn
    obtain ⟨r, hr, hlow, hhigh⟩ := hn
    have hmem : c.toNat ∈ blankNumbers := by
      refine List.mem_flatMap.2 ⟨r, hr, ?_⟩
      rw [List.mem_range'_1]
      omega
    have hupper := key c.toNat hmem
    rwa [Char.ofNat_toNat] at hupper

/-! ## §2. Trimming -/

theorem trimStart_append {front text : List Char} (hhead : text.head?.any isBlank = false) :
    trimStart (front ++ text) = trimStart front ++ text := by
  have htext := trimStart_eq_self hhead
  unfold trimStart at htext ⊢
  rw [List.dropWhile_append, htext]
  split
  · next hempty => rw [List.isEmpty_iff.1 hempty, List.nil_append]
  · rfl

theorem trimEnd_append {text back : List Char} (hlast : text.getLast?.any isBlank = false) :
    trimEnd (text ++ back) = text ++ trimEnd back := by
  have hreverse : trimStart (back.reverse ++ text.reverse)
      = trimStart back.reverse ++ text.reverse := by
    refine trimStart_append ?_
    rw [List.head?_reverse]
    exact hlast
  unfold trimStart at hreverse
  unfold trimEnd dropEndWhile
  rw [List.reverse_append, hreverse, List.reverse_append, List.reverse_reverse]

/-- Trimming does not get to a part of the text whose ends are no blanks. -/
theorem trim_around {text : List Char} (hne : text ≠ []) (hhead : text.head?.any isBlank = false)
    (hlast : text.getLast?.any isBlank = false) (left right : List Char) :
    trim (left ++ text ++ right) = trimStart left ++ text ++ trimEnd right := by
  have hstart : trimStart (left ++ (text ++ right)) = trimStart left ++ (text ++ right) := by
    refine trimStart_append ?_
    cases text with
    | nil => exact absurd rfl hne
    | cons c rest => exact hhead
  have hend : trimEnd (trimStart left ++ text ++ right) = trimStart left ++ text ++ trimEnd right := by
    refine trimEnd_append ?_
    rw [List.getLast?_append]
    cases hlast? : text.getLast? with
    | none => exact absurd (List.getLast?_eq_none_iff.1 hlast?) hne
    | some c =>
      rw [hlast?] at hlast
      exact hlast
  rw [trim, List.append_assoc, hstart, ← List.append_assoc, hend]

/-- The last character of what is left without leading blanks is that of the text. -/
theorem getLast?_trimStart {p : Char → Bool} {text : List Char}
    (h : text.getLast?.all p = true) : (trimStart text).getLast?.all p = true := by
  obtain ⟨blanks, hblanks⟩ : trimStart text <:+ text := List.dropWhile_suffix _
  rw [← hblanks, List.getLast?_append] at h
  cases hlast : (trimStart text).getLast? with
  | none => rfl
  | some c =>
    rw [hlast] at h
    exact h

/-- The first character of what is left without trailing blanks is that of the text. -/
theorem head?_trimEnd {p : Char → Bool} {text : List Char} (h : text.head?.all p = true) :
    (trimEnd text).head?.all p = true := by
  obtain ⟨blanks, hblanks, _⟩ := dropEndWhile_append isBlank text
  have htext : text = trimEnd text ++ blanks := hblanks
  rw [htext, List.head?_append] at h
  cases hhead : (trimEnd text).head? with
  | none => rfl
  | some c =>
    rw [hhead] at h
    exact h

end ScriptGate.Text
