/-
  ScriptGate.Text.Trim — cutting blanks off the ends of a text.

  Main statements:
    - `trim_nil_iff`      — a text trims to nothing exactly when it is blank throughout;
    - `exists_trim`       — trimming only takes blanks away: the text is its trimmed form between
                            two runs of blanks;
    - `trim_trim`         — what is trimmed stays as it is.
-/
import ScriptGate.Text.Class

namespace ScriptGate.Text

/-! ## §1. One end -/

/-- Without leading blanks. -/
def trimStart (cs : List Char) : List Char := cs.dropWhile isBlank

/-- Without trailing characters of a class. -/
def dropEndWhile (p : Char → Bool) (cs : List Char) : List Char :=
  (cs.reverse.dropWhile p).reverse

/-- Without trailing blanks. -/
def trimEnd (cs : List Char) : List Char := dropEndWhile isBlank cs

/-! ## §2. Both ends -/

/-- Without blanks at either end. -/
def trim (cs : List Char) : List Char := trimEnd (trimStart cs)

/-- `trim` on strings. -/
def trimString (s : String) : String := String.ofList (trim s.toList)

/-- Nothing but blanks? -/
def isBlankText (s : String) : Bool := s.toList.all isBlank

/-! ## §3. What trimming takes away -/

/-- What `dropEndWhile` takes away is a run of the class. -/
theorem dropEndWhile_append (p : Char → Bool) (cs : List Char) :
    ∃ tail, cs = dropEndWhile p cs ++ tail ∧ tail.all p = true := by
  refine ⟨(cs.reverse.takeWhile p).reverse, ?_, ?_⟩
  · rw [dropEndWhile, ← List.reverse_append, List.takeWhile_append_dropWhile, List.reverse_reverse]
  · rw [List.all_reverse]; exact List.all_takeWhile

/-- A text is its trimmed form between two runs of blanks. -/
theorem exists_trim (cs : List Char) :
    ∃ a b, cs = a ++ trim cs ++ b ∧ a.all isBlank = true ∧ b.all isBlank = true := by
  -- the blanks in front go first, then those at the end of what is left
  obtain ⟨b, hb, hall⟩ := dropEndWhile_append isBlank (trimStart cs)
  refine ⟨cs.takeWhile isBlank, b, ?_, List.all_takeWhile, hall⟩
  calc cs = cs.takeWhile isBlank ++ cs.dropWhile isBlank :=
        List.takeWhile_append_dropWhile.symm
    _ = cs.takeWhile isBlank ++ (trim cs ++ b) := by
        rw [show cs.dropWhile isBlank = trimStart cs from rfl, trim, trimEnd, ← hb]
    _ = cs.takeWhile isBlank ++ trim cs ++ b := by rw [List.append_assoc]

/-- Of blanks nothing is left. -/
theorem trimStart_of_blank {cs : List Char} (h : cs.all isBlank = true) : trimStart cs = [] := by
  induction cs with
  | nil => rfl
  | cons c rest ih =>
    rw [List.all_cons, Bool.and_eq_true] at h
    rw [trimStart, List.dropWhile_cons, if_pos h.1]
    exact ih h.2

/-- A text that does not begin with a blank keeps its front. -/
theorem trimStart_eq_self {cs : List Char} (h : cs.head?.any isBlank = false) :
    trimStart cs = cs := by
  cases cs with
  | nil => rfl
  | cons c rest =>
    rw [List.head?_cons, Option.any_some] at h
    rw [trimStart, List.dropWhile_cons, if_neg (by rw [h]; exact Bool.false_ne_true)]

/-- No blank is left in front. -/
theorem head?_trimStart (cs : List Char) : (trimStart cs).head?.any isBlank = false := by
  have h := List.head?_dropWhile_not isBlank cs
  unfold trimStart
  cases hhead : (cs.dropWhile isBlank).head? with
  | none => rfl
  | some d =>
    rw [hhead] at h
    exact h

/-- A text trims to nothing exactly when it is blank throughout. -/
theorem trim_nil_iff (cs : List Char) : trim cs = [] ↔ cs.all isBlank = true := by
  constructor
  · intro h
    obtain ⟨a, b, hcs, ha, hb⟩ := exists_trim cs
    rw [hcs, h]; simp [ha, hb]
  · intro h
    rw [trim, trimStart_of_blank h]
    rfl

/-- Of all else than blanks nothing is taken away. -/
theorem count_trim {c : Char} (h : isBlank c = false) (cs : List Char) :
    (trim cs).count c = cs.count c := by
  obtain ⟨a, b, hcs, ha, hb⟩ := exists_trim cs
  have hnone : ∀ blanks : List Char, blanks.all isBlank = true → blanks.count c = 0 := by
    intro blanks hblanks
    refine List.count_eq_zero.2 fun hc => ?_
    rw [List.all_eq_true.1 hblanks c hc] at h
    exact Bool.noConfusion h
  calc (trim cs).count c = a.count c + (trim cs).count c + b.count c := by
        rw [hnone a ha, hnone b hb, Nat.zero_add, Nat.add_zero]
    _ = (a ++ trim cs ++ b).count c := by rw [List.count_append, List.count_append]
    _ = cs.count c := by rw [← hcs]

/-! ## §4. Trimmed texts -/

/-- A text whose first and last characters are no blanks stays as it is. -/
theorem trim_eq_self {cs : List Char} (hhead : cs.head?.any isBlank = false)
    (hlast : cs.getLast?.any isBlank = false) : trim cs = cs := by
  have hreverse : trimStart cs.reverse = cs.reverse :=
    trimStart_eq_self (by rw [List.head?_reverse]; exact hlast)
  unfold trimStart at hreverse
  rw [trim, trimStart_eq_self hhead, trimEnd, dropEndWhile, hreverse, List.reverse_reverse]

/-- A trimmed text neither begins nor ends with a blank. -/
theorem trim_ends (cs : List Char) :
    (trim cs).head?.any isBlank = false ∧ (trim cs).getLast?.any isBlank = false := by
  constructor
  · obtain ⟨tail, htail, _⟩ := dropEndWhile_append isBlank (trimStart cs)
    have htrim : trimStart cs = trim cs ++ tail := htail
    cases hcs : trim cs with
    | nil => rfl
    | cons c rest =>
      have hstart := head?_trimStart cs
      rw [htrim, hcs] at hstart
      exact hstart
  · rw [trim, trimEnd, dropEndWhile, List.getLast?_reverse]
    exact head?_trimStart _

/-- What is trimmed stays as it is. -/
theorem trim_trim (cs : List Char) : trim (trim cs) = trim cs :=
  trim_eq_self (trim_ends cs).1 (trim_ends cs).2

end ScriptGate.Text
