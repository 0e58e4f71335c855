/-
  ScriptGate.Text.Class — which characters are blank, alphanumeric or part of a word.

  The classes are those of Unicode: an SQL script may name its tables in any alphabet and may be
  indented with any blank.  Main statements:
    - `forall_ascii`              — a fact about ASCII is checked character by character;
    - `isAlphanumeric_of_ascii`   — inside ASCII the alphanumeric characters are the letters and
                                    the digits, so no punctuation mark is one;
    - `isWordChar_ascii`          — inside ASCII a word adds exactly the underscore to them.
-/
import ScriptGate.Text.ClassTable

namespace ScriptGate.Text

/-! ## §1. Table look-up -/

/-- Does one of the closed ranges of `table` hold the code point `n`? -/
def inRanges (table : List (Nat × Nat)) (n : Nat) : Bool :=
  table.any fun r => r.1 ≤ n && n ≤ r.2

/-- The ASCII block, which the classes decide without a table. -/
def isAscii (c : Char) : Bool := c.toNat < 0x80

/-- What holds for each of the first 128 characters holds for every ASCII character. -/
theorem forall_ascii {P : Char → Prop} (h : ∀ n, n < 128 → P (Char.ofNat n)) {c : Char}
    (hc : isAscii c = true) : P c := by
  have := h c.toNat (by simpa [isAscii] using hc)
  rwa [Char.ofNat_toNat] at this

/-! ## §2. The classes -/

/-- `White_Space`: the blank, the controls from tab to carriage return, and the blanks of the
    other blocks (no-break space, ideographic space, line separator, …). -/
def isBlank (c : Char) : Bool :=
  if isAscii c then c == ' ' || (0x09 ≤ c.toNat && c.toNat ≤ 0x0D)
  else inRanges blankRanges c.toNat

/-- `Alphabetic`: letters, letter numbers and the vowel signs that behave as letters. -/
def isAlphabetic (c : Char) : Bool :=
  if isAscii c then c.isAlpha else inRanges alphabeticRanges c.toNat

/-- General category `N`: decimal digits of every script, letter numbers, fractions. -/
def isNumeric (c : Char) : Bool :=
  if isAscii c then c.isDigit else inRanges numericRanges c.toNat

/-- Letters and numbers of every script. -/
def isAlphanumeric (c : Char) : Bool :=
  isAlphabetic c || isNumeric c

/-- A character an unquoted name goes on with: alphanumeric or the underscore. -/
def isNameChar (c : Char) : Bool :=
  isAlphanumeric c || c == '_'

/-- A character of a word in a text search: letters, marks, decimal digits, connector
    punctuation (the underscore among it) and the join controls, except those of the latest
    scripts. -/
def isWordChar (c : Char) : Bool :=
  if isAscii c then c.isAlphanum || c == '_'
  else (inRanges alphabeticRanges c.toNat || inRanges joinerRanges c.toNat) &&
    !inRanges latestRanges c.toNat

/-- `Cased`: letters that come in small, capital or title form. -/
def isCased (c : Char) : Bool :=
  if isAscii c then c.isAlpha else inRanges casedRanges c.toNat

/-- `Case_Ignorable`: marks and signs that do not interrupt a cased word. -/
def isCaseIgnorable (c : Char) : Bool :=
  if isAscii c then "'.:^\x60".contains c else inRanges caseIgnorableRanges c.toNat

/-! ## §3. Inside ASCII -/

/-- Inside ASCII the alphanumeric characters are the letters and the digits. -/
theorem isAlphanumeric_of_ascii {c : Char} (h : isAscii c = true) :
    isAlphanumeric c = c.isAlphanum := by
  simp [isAlphanumeric, isAlphabetic, isNumeric, Char.isAlphanum, h]

/-- Inside ASCII a word adds the underscore to the letters and the digits. -/
theorem isWordChar_ascii {c : Char} (h : isAscii c = true) :
    isWordChar c = isNameChar c := by
  simp [isNameChar, isAlphanumeric_of_ascii h, isWordChar, h]

end ScriptGate.Text
