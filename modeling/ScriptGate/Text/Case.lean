/-
  ScriptGate.Text.Case — full case mapping of texts.

  A capital form may take several letters (the sharp s becomes SS), and the small form of a
  capital sigma depends on its place: at the end of a word it is the final sigma.
  Main statements:
    - `upper_append`       — capitals are taken letter by letter;
    - `upperOf_ascii`      — inside ASCII only the small letters change.
-/
import ScriptGate.Text.Class
import ScriptGate.Text.CaseTable

namespace ScriptGate.Text

/-! ## §1. Runs -/

/-- The image of `n` under the first run that covers it. -/
def CaseRun.apply? (runs : List CaseRun) (n : Nat) : Option Nat :=
  runs.findSome? fun r =>
    if r.first ≤ n && n ≤ r.last && (n - r.first) % r.stride == 0 then
      some (r.image + (n - r.first))
    else none

/-- The image of `c` by expansion, else by run, else itself. -/
def mapCase (expansions : List (Nat × List Nat)) (runs : List CaseRun) (c : Char) : List Char :=
  match expansions.lookup c.toNat with
  | some ns => ns.map Char.ofNat
  | none =>
    match CaseRun.apply? runs c.toNat with
    | some n => [Char.ofNat n]
    | none => [c]

/-! ## §2. Capitals -/

/-- The capital form of one character. -/
def upperOf (c : Char) : List Char :=
  if isAscii c then [c.toUpper] else mapCase upperExpansions upperRuns c

/-- The text in capitals. -/
def upper (cs : List Char) : List Char := cs.flatMap upperOf

@[simp] theorem upper_nil : upper [] = [] := rfl

@[simp] theorem upper_cons (c : Char) (cs : List Char) :
    upper (c :: cs) = upperOf c ++ upper cs := rfl

theorem upper_append (a b : List Char) : upper (a ++ b) = upper a ++ upper b := by
  simp [upper]

/-- Inside ASCII only the small letters change. -/
theorem upperOf_ascii {c : Char} (h : isAscii c = true) : upperOf c = [c.toUpper] := by
  simp [upperOf, h]

/-! ## §3. Small letters -/

/-- Behind signs that do not interrupt a word, does a cased letter come next? -/
def meetsCased (cs : List Char) : Bool :=
  match cs.dropWhile isCaseIgnorable with
  | c :: _ => isCased c
  | [] => false

/-- The small form of one character between the text `before` it (nearest character first) and
    the text `after` it: a capital sigma that ends its word becomes the final sigma. -/
def lowerAt (before : List Char) (c : Char) (after : List Char) : List Char :=
  if isAscii c then [c.toLower]
  else if c == 'Σ' then
    if meetsCased before && !meetsCased after then ['ς'] else ['σ']
  else mapCase lowerExpansions lowerRuns c

/-- The text in small letters. -/
def lower (cs : List Char) : List Char := go [] cs
where
  /-- Walks on with the text already passed, nearest character first. -/
  go (before : List Char) : List Char → List Char
    | [] => []
    | c :: rest => lowerAt before c rest ++ go (c :: before) rest

/-- `lower` on strings. -/
def lowerString (s : String) : String := String.ofList (lower s.toList)

end ScriptGate.Text
