/-
  ScriptGate.Domain.Folding — the one form of every letter in a name.

  Main statement:
    - `folded_ascii` — inside ASCII only capitals change.
-/
import ScriptGate.Text.Class
import ScriptGate.Domain.FoldingTable

namespace ScriptGate.Domain

open ScriptGate.Text

/-- The word of a code point in runs of consecutive code points. -/
def wordAt? (runs : List (Nat × String)) (n : Nat) : Option (List Char) :=
  match (runs.takeWhile (·.1 ≤ n)).getLast? with
  | some (first, words) => (words.toList.splitOn ' ')[n - first]?
  | none => none

/-- What a character stands for in a name; one that no name holds stands for the replacement
    sign. -/
def folded (c : Char) : List Char :=
  if isAscii c then [c.toLower]
  else if inRanges droppedRanges c.toNat then []
  else
    match wordAt? foldingRuns c.toNat with
    | some word => word
    | none => if inRanges refusedRanges c.toNat then ['\ufffd'] else [c]

/-- Inside ASCII only capitals change. -/
theorem folded_ascii {c : Char} (h : isAscii c = true) : folded c = [c.toLower] := if_pos h

/-- Characters that end or divide a location, and the replacement sign: no name holds them. -/
def isForbidden (c : Char) : Bool :=
  c.toNat ≤ 0x20 || c.toNat == 0x7f || c == '\ufffd' || "%#/:<>?@[\\]^|".toList.contains c

end ScriptGate.Domain
