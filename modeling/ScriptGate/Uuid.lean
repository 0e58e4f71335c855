/-
  ScriptGate.Uuid — identifiers of a hundred and twenty-eight bits.

  An identifier is written as thirty-two hexadecimal digits in groups of eight, four, four, four
  and twelve.  It is read with or without the hyphens between the groups, and with hyphens also
  between braces or as a name.
  Main statements:
    - `length_digits` — an identifier has thirty-two digits;
    - `length_text`   — and is written with thirty-six characters.
-/
import ScriptGate.Text.Digit

namespace ScriptGate

open ScriptGate.Text

/-- An identifier. -/
structure Uuid where
  /-- its bits -/
  bits : BitVec 128
deriving DecidableEq, Repr, Inhabited

namespace Uuid

/-! ## §1. Writing -/

/-- The digits, from the highest on. -/
def digits (u : Uuid) : List Char :=
  (List.range 32).map fun i => digit ((u.bits.toNat >>> (4 * (31 - i))) % 16)

/-- The identifier in groups. -/
def chars (u : Uuid) : List Char :=
  let ds := u.digits
  ds.take 8 ++ '-' :: (ds.drop 8).take 4 ++ '-' :: (ds.drop 12).take 4 ++
    '-' :: (ds.drop 16).take 4 ++ '-' :: ds.drop 20

/-- The identifier as a text. -/
def text (u : Uuid) : String := String.ofList u.chars

/-! ## §2. Reading -/

/-- Reads thirty-two digits. -/
def ofDigits? (ds : List Char) : Option Uuid := do
  if ds.length ≠ 32 then none
  let values ← ds.mapM digitValue?
  return ⟨BitVec.ofNat 128 (values.foldl (fun n d => 16 * n + d) 0)⟩

/-- Reads digits in groups. -/
def ofGroups? (cs : List Char) : Option Uuid :=
  if cs.length = 36 ∧ [8, 13, 18, 23].all (fun i => cs[i]? == some '-') then
    ofDigits? (cs.take 8 ++ (cs.drop 9).take 4 ++ (cs.drop 14).take 4 ++ (cs.drop 19).take 4 ++
      cs.drop 24)
  else none

/-- What stands between braces that enclose all of a text. -/
def braced? : List Char → Option (List Char)
  | '\x7b' :: rest => if rest.getLast? = some '\x7d' then some rest.dropLast else none
  | _ => none

/-- What an identifier is introduced by as a name. -/
def nameLabel : List Char := "urn:uuid:".toList

/-- Reads an identifier in any of its forms. -/
def ofChars? (cs : List Char) : Option Uuid :=
  if cs.length = 32 then ofDigits? cs
  else if cs.length = 36 then ofGroups? cs
  else if cs.length = 38 then (braced? cs).bind ofGroups?
  else if cs.length = 45 ∧ nameLabel.isPrefixOf cs then ofGroups? (cs.drop nameLabel.length)
  else none

/-! ## §3. Lengths -/

/-- An identifier has thirty-two digits. -/
@[simp] theorem length_digits (u : Uuid) : u.digits.length = 32 := by
  rw [digits, List.length_map, List.length_range]

/-- An identifier is written with thirty-six characters. -/
theorem length_text (u : Uuid) : u.text.length = 36 := by
  simp only [text, chars, String.length_ofList, List.length_append, List.length_cons,
    List.length_take, List.length_drop, length_digits]
  decide

end Uuid

end ScriptGate
