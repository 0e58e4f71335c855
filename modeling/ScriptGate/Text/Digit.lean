/-
  ScriptGate.Text.Digit — digits, and the numbers they spell.

  Digits go up to fifteen; those above nine are written small and read small or capital.
  Main statement:
    - `number?_eq_some_iff` — exactly which texts are numbers, and which numbers they are.
-/

namespace ScriptGate.Text

/-! ## §1. Single digits -/

/-- The digit of a value below sixteen. -/
def digit (n : Nat) : Char := "0123456789abcdef".toList.getD n '0'

/-- The digit of a value below sixteen, as a capital. -/
def capitalDigit (n : Nat) : Char := (digit n).toUpper

/-- The value of a digit. -/
def digitValue? (c : Char) : Option Nat :=
  if c.isDigit then some (c.toNat - '0'.toNat)
  else if 'a' ≤ c ∧ c ≤ 'f' then some (c.toNat - 'a'.toNat + 10)
  else if 'A' ≤ c ∧ c ≤ 'F' then some (c.toNat - 'A'.toNat + 10)
  else none

/-- A hexadecimal digit? -/
def isHexDigit (c : Char) : Bool := (digitValue? c).isSome

/-- An octal digit? -/
def isOctalDigit (c : Char) : Bool := '0' ≤ c && c ≤ '7'

/-! ## §2. Numbers -/

/-- The number that digits spell in a base. -/
def digitsValue (base : Nat) (ds : List Char) : Nat :=
  ds.foldl (fun n c => n * base + (digitValue? c).getD 0) 0

/-- Without one plus sign in front. -/
def dropPlus : List Char → List Char
  | '+' :: rest => rest
  | cs => cs

/-- The number that a text of decimal digits, perhaps behind a plus sign, spells; nothing beyond
    a bound is a number. -/
def number? (bound : Nat) (cs : List Char) : Option Nat :=
  let ds := dropPlus cs
  if !ds.isEmpty && ds.all Char.isDigit && decide (digitsValue 10 ds ≤ bound) then
    some (digitsValue 10 ds)
  else none

/-- The greatest number of sixteen bits. -/
def bound16 : Nat := 65535

/-- The greatest number of sixty-four bits. -/
def bound64 : Nat := 18446744073709551615

/-- Exactly which texts are numbers, and which numbers they are. -/
theorem number?_eq_some_iff (bound n : Nat) (cs : List Char) :
    number? bound cs = some n ↔
      dropPlus cs ≠ [] ∧ (∀ c ∈ dropPlus cs, c.isDigit = true) ∧
        n = digitsValue 10 (dropPlus cs) ∧ n ≤ bound := by
  simp only [number?]
  constructor
  · intro h
    split at h
    · rename_i hc
      simp only [Bool.and_eq_true, Bool.not_eq_true', List.isEmpty_eq_false_iff,
        List.all_eq_true, decide_eq_true_eq] at hc
      obtain rfl := Option.some.inj h
      exact ⟨hc.1.1, hc.1.2, rfl, hc.2⟩
    · exact absurd h (by simp)
  · rintro ⟨hne, hall, rfl, hb⟩
    rw [if_pos]
    simp only [Bool.and_eq_true, Bool.not_eq_true', List.isEmpty_eq_false_iff,
      List.all_eq_true, decide_eq_true_eq]
    exact ⟨⟨hne, hall⟩, hb⟩

end ScriptGate.Text
