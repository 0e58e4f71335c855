/-
  ScriptGate.Script.Keyword — the word a statement opens with.

  Main statement:
    - `leadingKeyword_trimStart` — blanks in front do not matter.
-/
import ScriptGate.Text.Case
import ScriptGate.Text.Trim

namespace ScriptGate.Script

open ScriptGate.Text

/-- What ends the opening word: a blank or an opening parenthesis. -/
def endsKeyword (c : Char) : Bool := isBlank c || c == '('

/-- The opening word as it is written. -/
def leadingWord (statement : List Char) : List Char :=
  (trimStart statement).takeWhile fun c => !endsKeyword c

/-- The opening word in capitals. -/
def leadingKeyword (statement : List Char) : List Char := upper (leadingWord statement)

/-- `leadingKeyword` on strings. -/
def keywordOf (statement : String) : String := String.ofList (leadingKeyword statement.toList)

/-- Blanks in front do not matter. -/
theorem leadingKeyword_trimStart (statement : List Char) :
    leadingKeyword (trimStart statement) = leadingKeyword statement := by
  unfold leadingKeyword leadingWord
  rw [trimStart_eq_self (head?_trimStart statement)]

end ScriptGate.Script
