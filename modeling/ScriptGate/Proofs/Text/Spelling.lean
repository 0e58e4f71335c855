/-
  ScriptGate.Proofs.Text.Spelling — numbers and names as they are spelled where other text stands
  around them.

  A number is spelled by its decimal digits, and a name by the characters that mean nothing where
  it stands, with an escape for each byte of any other.  Either is found again by cutting the text
  around it at the marks that neither of them holds.
  Main statements:
    - `number?_toString`       — a number reads back from its digits;
    - `encode_eq_self_iff`     — escaping leaves a text as it is only where nothing is escaped;
    - `isComponentChar_component`, `component_eq_self_iff` — what an escaped name holds, and which
                                 names are their own escaped form.
-/
import ScriptGate.Text.Percent

namespace ScriptGate.Text

/-! ## §1. Cutting at a mark -/

/-- What holds of each character of a fixed text; it is decided along the text, and not for all
    characters that there are. -/
theorem forall_of_all {P : Char → Prop} [DecidablePred P] {cs : List Char}
    (h : cs.all (fun c => decide (P c)) = true) : ∀ c ∈ cs, P c :=
  fun c hc => of_decide_eq_true (List.all_eq_true.1 h c hc)

section

variable {p : Char → Bool} {front : List Char} {c : Char}

theorem takeWhile_upto (hfront : ∀ x ∈ front, p x = true) (hc : p c = false) (back : List Char) :
    (front ++ c :: back).takeWhile p = front := by
  rw [List.takeWhile_append_of_pos hfront, List.takeWhile_cons_of_neg (Bool.eq_false_iff.1 hc),
    List.append_nil]

theorem dropWhile_upto (hfront : ∀ x ∈ front, p x = true) (hc : p c = false) (back : List Char) :
    (front ++ c :: back).dropWhile p = c :: back := by
  rw [List.dropWhile_append_of_pos hfront, List.dropWhile_cons_of_neg (Bool.eq_false_iff.1 hc)]

theorem takeWhile_all (hfront : ∀ x ∈ front, p x = true) : front.takeWhile p = front := by
  rw [← List.append_nil front, List.takeWhile_append_of_pos hfront, List.takeWhile_nil]

theorem dropWhile_all (hfront : ∀ x ∈ front, p x = true) : front.dropWhile p = [] := by
  rw [← List.append_nil front, List.dropWhile_append_of_pos hfront, List.dropWhile_nil]

end

/-! ## §2. Numbers -/

theorem toList_toString (n : Nat) : (toString n).toList = Nat.toDigits 10 n := by
  rw [Nat.toString_eq_repr, Nat.toList_repr]

theorem isDigit_toString {n : Nat} : ∀ c ∈ (toString n).toList, c.isDigit = true := by
  intro c hc
  rw [toList_toString] at hc
  exact Nat.isDigit_of_mem_toDigits (by decide) (by decide) hc

theorem toString_ne_nil (n : Nat) : (toString n).toList ≠ [] := by
  rw [toList_toString]
  exact Nat.toDigits_ne_nil

theorem foldl_digits {ds : List Char} (h : ∀ c ∈ ds, c.isDigit = true) :
    ∀ start, ds.foldl (fun n c => n * 10 + (digitValue? c).getD 0) start
      = Nat.ofDigitChars 10 ds start := by
  induction ds with
  | nil => exact fun _ => rfl
  | cons c rest ih =>
    intro start
    have hc : digitValue? c = some (c.toNat - '0'.toNat) := if_pos (h c List.mem_cons_self)
    rw [List.foldl_cons, Nat.ofDigitChars_cons, ih fun x hx => h x (List.mem_cons_of_mem _ hx), hc,
      Nat.mul_comm]
    rfl

/-- The digits of a number spell it. -/
theorem digitsValue_toString (n : Nat) : digitsValue 10 (toString n).toList = n := by
  rw [digitsValue, foldl_digits isDigit_toString, toList_toString, Nat.ofDigitChars_ten_toDigits]

theorem dropPlus_toString (n : Nat) : dropPlus (toString n).toList = (toString n).toList := by
  unfold dropPlus
  split
  · rename_i rest heq
    -- a plus sign is no digit
    exact Bool.noConfusion (isDigit_toString '+' (by rw [heq]; exact List.mem_cons_self))
  · rfl

/-- **A number reads back from its digits.** -/
theorem number?_toString {bound n : Nat} (h : n ≤ bound) :
    number? bound (toString n).toList = some n := by
  rw [number?_eq_some_iff, dropPlus_toString]
  exact ⟨toString_ne_nil n, isDigit_toString, (digitsValue_toString n).symm, h⟩

end ScriptGate.Text

namespace ScriptGate.Text.Percent

/-! ## §3. Escapes -/

/-- The escapes of a character take more than the character. -/
theorem length_escapes (c : Char) : 1 < ((Utf8.bytes [c]).flatMap escape).length := by
  have hbytes : 0 < (Utf8.bytes [c]).length := by
    rw [Utf8.bytes, List.flatMap_cons, List.flatMap_nil, List.append_nil,
      String.length_utf8EncodeChar]
    exact c.utf8Size_pos
  obtain ⟨b, bs, hcons⟩ := List.exists_cons_of_length_pos hbytes
  rw [hcons, List.flatMap_cons, List.length_append]
  show 1 < 3 + _
  omega

theorem length_le_encode (escaped : Char → Bool) (cs : List Char) :
    cs.length ≤ (encode escaped cs).length := by
  induction cs with
  | nil => exact Nat.le_refl _
  | cons c rest ih =>
    rw [encode_cons, List.length_append, List.length_cons]
    split
    · have hlong := length_escapes c
      omega
    · rw [List.length_singleton]
      omega

/-- **Escaping leaves a text as it is only where nothing is escaped.** -/
theorem encode_eq_self_iff (escaped : Char → Bool) (cs : List Char) :
    encode escaped cs = cs ↔ ∀ c ∈ cs, escaped c = false := by
  refine ⟨fun h => ?_, encode_eq_self⟩
  induction cs with
  | nil => exact fun c hc => absurd hc List.not_mem_nil
  | cons c rest ih =>
    rw [encode_cons] at h
    cases hc : escaped c with
    | true =>
      -- the whole would have become longer
      rw [hc, if_pos rfl] at h
      have hlength := congrArg List.length h
      rw [List.length_append, List.length_cons] at hlength
      have hlong := length_escapes c
      have hrest := length_le_encode escaped rest
      omega
    | false =>
      rw [hc] at h
      have hrest := ih (List.cons.inj h).2
      exact List.forall_mem_cons.2 ⟨hc, hrest⟩

/-! ## §4. Names inside of a location -/

/-- Characters that mean nothing anywhere in a location. -/
def isUnreserved (c : Char) : Bool :=
  c.isAlphanum || c == '-' || c == '.' || c == '_' || c == '~'

/-- A name as it is spelled inside of a location: all but the unreserved characters escaped. -/
def component (name : List Char) : List Char := encode (!isUnreserved ·) name

/-- Characters that names inside of a location are spelled with. -/
def isComponentChar (c : Char) : Bool := isUnreserved c || c == '%'

theorem isComponentChar_escape (b : UInt8) : (escape b).all isComponentChar = true := by
  have hdigits : ∀ n ∈ List.range 16, isComponentChar (capitalDigit n) = true := by decide +kernel
  have hb := b.toNat_lt
  rw [escape, List.all_cons, List.all_cons, List.all_cons, List.all_nil,
    hdigits _ (List.mem_range.2 (by omega)), hdigits _ (List.mem_range.2 (by omega))]
  rfl

/-- Letters and digits are those of ASCII. -/
theorem isAlphanum_iff {c : Char} : c.isAlphanum = true ↔
    ('A' ≤ c ∧ c ≤ 'Z' ∨ 'a' ≤ c ∧ c ≤ 'z') ∨ '0' ≤ c ∧ c ≤ '9' := by
  show ((decide ('A' ≤ c ∧ c ≤ 'Z') || (decide ('a' ≤ c) && decide (c ≤ 'z'))) ||
    (decide ('0' ≤ c) && decide (c ≤ '9'))) = true ↔ _
  simp only [Bool.or_eq_true, Bool.and_eq_true, decide_eq_true_eq]

/-- An escaped name is spelled in ASCII. -/
theorem isAscii_of_isComponentChar {c : Char} (h : isComponentChar c = true) :
    isAscii c = true := by
  simp only [isComponentChar, isUnreserved, Bool.or_eq_true, isAlphanum_iff, beq_iff_eq] at h
  rcases h with ((((((h | h) | h) | rfl) | rfl) | rfl) | rfl) | rfl
  · exact decide_eq_true (Nat.lt_of_le_of_lt h.2 (by decide))
  · exact decide_eq_true (Nat.lt_of_le_of_lt h.2 (by decide))
  · exact decide_eq_true (Nat.lt_of_le_of_lt h.2 (by decide))
  all_goals decide

/-- **An escaped name holds unreserved characters and escapes only.** -/
theorem isComponentChar_component {name : List Char} :
    ∀ c ∈ component name, isComponentChar c = true := by
  unfold component
  induction name with
  | nil => exact fun c hc => absurd hc List.not_mem_nil
  | cons first rest ih =>
    rw [encode_cons]
    refine List.forall_mem_append.2 ⟨?_, ih⟩
    split
    · intro c hc
      obtain ⟨b, -, hc⟩ := List.mem_flatMap.1 hc
      exact List.all_eq_true.1 (isComponentChar_escape b) c hc
    · rename_i hfirst
      intro c hc
      rw [List.mem_singleton.1 hc, isComponentChar]
      simp only [Bool.not_eq_true', Bool.not_eq_false] at hfirst
      rw [hfirst, Bool.true_or]

/-- Exactly the names of unreserved characters are their own escaped form. -/
theorem component_eq_self_iff (name : List Char) :
    component name = name ↔ ∀ c ∈ name, isUnreserved c = true := by
  rw [component, encode_eq_self_iff]
  simp only [Bool.not_eq_false']

theorem component_ne_nil {name : List Char} (h : name ≠ []) : component name ≠ [] := by
  have hlength := length_le_encode (!isUnreserved ·) name
  have hpos := List.length_pos_iff.2 h
  exact List.ne_nil_of_length_pos (Nat.lt_of_lt_of_le hpos hlength)

/-! ## §5. Form fields -/

end ScriptGate.Text.Percent
