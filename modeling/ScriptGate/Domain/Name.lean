/-
  ScriptGate.Domain.Name — names of machines on the web.

  A name is folded and composed, so that all ways to write it lead to one, and taken apart into
  labels.  A label that comes in ASCII form must be one that would be written so.  The rules are
  those of the URL Standard for machines on the web, with the mapping and the forms of names of
  Unicode that the library `idna` documents.
  Main statements:
    - `written_ascii`     — inside ASCII a name is written in small letters;
    - `ofChars?_letters`  — a name of small letters is written as it is.
-/
import ScriptGate.Domain.Folding
import ScriptGate.Domain.Label
import ScriptGate.Domain.Script

namespace ScriptGate.Domain

open ScriptGate.Text

/-- The one way to write a text in a name. -/
def written (cs : List Char) : List Char := composed (cs.flatMap folded)

/-- The letters of a label: one in ASCII form is read. -/
def letters? : List Char → Option (List Char)
  | 'x' :: 'n' :: '-' :: '-' :: rest =>
    if 2000 < rest.length then none
    else (decoded? rest).filter fun read => written read == read && !read.any isForbidden
  | label => some label

/-- Is this a label of its own: no mark first, the joiners in place, and not too long to write? -/
def isLabel (label : List Char) : Bool :=
  !label.head?.any isMark && areJoinersFit label && (label.all isAscii || label.length ≤ 1000)

/-- Reads a name and writes it in ASCII. -/
def ofChars? (cs : List Char) : Option (List Char) := do
  let name := written cs
  if name.isEmpty || name.any isForbidden then none
  else
    let labels ← (name.splitOn '.').mapM letters?
    if labels.all isLabel && areDirected labels then
      some (['.'].intercalate (labels.map encoded))
    else none

/-! ## Names in ASCII -/

theorem isAscii_toLower {c : Char} (h : isAscii c = true) : isAscii c.toLower = true :=
  forall_ascii (P := fun c => isAscii c.toLower = true) (by decide +kernel) h

theorem flatMap_folded_ascii {cs : List Char} (h : cs.all isAscii = true) :
    cs.flatMap folded = cs.map Char.toLower := by
  induction cs with
  | nil => rfl
  | cons c rest ih =>
    rw [List.all_cons, Bool.and_eq_true] at h
    rw [List.flatMap_cons, folded_ascii h.1, ih h.2]
    rfl

/-- Inside ASCII a name is written in small letters. -/
theorem written_ascii {cs : List Char} (h : cs.all isAscii = true) :
    written cs = cs.map Char.toLower := by
  rw [written, flatMap_folded_ascii h, composed_ascii]
  rw [List.all_eq_true]
  intro d hd
  obtain ⟨c, hc, rfl⟩ := List.mem_map.1 hd
  exact isAscii_toLower (List.all_eq_true.1 h c hc)

/-- A small letter is in ASCII, is small, is not forbidden, divides nothing and is no hyphen. -/
theorem smallLetter_cases {c : Char} (h : 'a' ≤ c ∧ c ≤ 'z') :
    isAscii c = true ∧ c.toLower = c ∧ isForbidden c = false ∧ c ≠ '.' ∧ c ≠ '-' := by
  have ha : isAscii c = true := by
    have : c.toNat < 128 := Nat.lt_of_le_of_lt h.2 (by decide)
    simpa [isAscii] using this
  exact ⟨ha, forall_ascii (P := fun c => 'a' ≤ c ∧ c ≤ 'z' →
    c.toLower = c ∧ isForbidden c = false ∧ c ≠ '.' ∧ c ≠ '-') (by decide +kernel) ha h⟩

/-- A label without a hyphen is in letters already. -/
theorem letters?_plain {label : List Char} (h : '-' ∉ label) : letters? label = some label := by
  rw [letters?.eq_def]
  split
  · simp at h
  · rfl

/-- Every ASCII text is a label of its own. -/
theorem isLabel_ascii {label : List Char} (h : label.all isAscii = true) :
    isLabel label = true := by
  have hm : label.head?.any isMark = false := by
    cases label with
    | nil => rfl
    | cons c rest =>
      simp only [List.all_cons, Bool.and_eq_true] at h
      simp [isMark, h.1]
  rw [isLabel, hm, areJoinersFit_ascii h, h]
  rfl

/-- A name of small letters is written as it is. -/
theorem ofChars?_letters {cs : List Char} (hne : cs ≠ [])
    (h : ∀ c ∈ cs, 'a' ≤ c ∧ c ≤ 'z') : ofChars? cs = some cs := by
  have ha : cs.all isAscii = true :=
    List.all_eq_true.2 fun c hc => (smallLetter_cases (h c hc)).1
  have hw : written cs = cs := by
    rw [written_ascii ha]
    exact (List.map_congr_left fun c hc => (smallLetter_cases (h c hc)).2.1).trans (List.map_id _)
  have hb : cs.any isForbidden = false := by
    rw [List.any_eq_false]
    intro c hc
    rw [(smallLetter_cases (h c hc)).2.2.1]
    decide
  have hs : cs.splitOn '.' = [cs] :=
    List.splitOn_eq_singleton fun hc => (smallLetter_cases (h _ hc)).2.2.2.1 rfl
  have hl : letters? cs = some cs :=
    letters?_plain fun hc => (smallLetter_cases (h _ hc)).2.2.2.2 rfl
  have hd : areDirected [cs] = true := areDirected_ascii fun l hm => by
    rw [List.mem_singleton.1 hm]; exact ha
  have he : cs.isEmpty = false := by simpa using hne
  simp [ofChars?, hw, he, hb, hs, hl, isLabel_ascii ha, hd, encoded_ascii ha]

end ScriptGate.Domain
