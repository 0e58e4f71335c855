/-
  ScriptGate.Setting.Address — addresses of machines.

  An address of four octets is written with points and read strictly: decimal octets without
  leading zeros.  A location on the web may also write it in fewer parts and in other bases.  An
  address of eight groups is written with colons, its longest run of zero groups left out.
-/
import ScriptGate.Text.Digit

namespace ScriptGate.Setting

open ScriptGate.Text

/-! ## §1. Four octets -/

/-- An address of four octets. -/
structure Ipv4 where
  /-- the octets, the first one highest -/
  bits : UInt32
deriving DecidableEq, Repr, Inhabited

namespace Ipv4

/-- The octet at a place below four. -/
def octet (a : Ipv4) (i : Nat) : Nat := (a.bits.toNat >>> (8 * (3 - i))) % 256

/-- The address as a text. -/
def text (a : Ipv4) : String := ".".intercalate ((List.range 4).map fun i => toString (a.octet i))

/-- The address with these octets. -/
def ofOctets (octets : List Nat) : Ipv4 :=
  ⟨.ofNat (octets.foldl (fun n o => 256 * n + o) 0)⟩

/-- Reads an octet: decimal and without leading zeros. -/
def octet? (cs : List Char) : Option Nat :=
  if cs.length ≤ 3 && cs.all Char.isDigit && (cs.length == 1 || cs.head? != some '0') then
    if !cs.isEmpty && decide (digitsValue 10 cs ≤ 255) then some (digitsValue 10 cs) else none
  else none

/-- Reads four octets with points between them. -/
def ofChars? (cs : List Char) : Option Ipv4 := do
  let parts := cs.splitOn '.'
  if parts.length ≠ 4 then none
  return ofOctets (← parts.mapM octet?)

/-! ## §2. Loosely written -/

/-- Reads a number: hexadecimal behind `0x`, octal behind a zero, else decimal. -/
def looseNumber? (cs : List Char) : Option Nat :=
  let (base, isDigit, ds) : Nat × (Char → Bool) × List Char :=
    match cs with
    | '0' :: 'x' :: rest | '0' :: 'X' :: rest => (16, isHexDigit, rest)
    | '0' :: c :: rest => (8, isOctalDigit, c :: rest)
    | _ => (10, Char.isDigit, cs)
  if !cs.isEmpty && ds.all isDigit then some (digitsValue base ds) else none

/-- The parts between points; a point at the end counts for nothing. -/
def looseParts (cs : List Char) : List (List Char) :=
  let parts := cs.splitOn '.'
  if 1 < parts.length && parts.getLast? == some [] then parts.dropLast else parts

/-- Does a text end like an address? -/
def looksLike (cs : List Char) : Bool :=
  match (looseParts cs).getLast? with
  | some last => (!last.isEmpty && last.all Char.isDigit) || (looseNumber? last).isSome
  | none => false

/-- Reads up to four numbers; the last one fills the octets that are left. -/
def ofLoose? (cs : List Char) : Option Ipv4 := do
  let numbers ← (looseParts cs).mapM looseNumber?
  let last ← numbers.getLast?
  let front := numbers.dropLast
  if front.length ≤ 3 && front.all (· ≤ 255) && last >>> (8 * (4 - front.length)) == 0 then
    return ⟨.ofNat ((ofOctets (front ++ List.replicate (4 - front.length) 0)).bits.toNat + last)⟩
  else none

end Ipv4

/-! ## §3. Eight groups -/

/-- An address of eight groups. -/
structure Ipv6 where
  /-- the groups, the first one highest -/
  groups : List UInt16
  /-- there are eight of them -/
  length_groups : groups.length = 8
deriving DecidableEq, Repr

namespace Ipv6

/-- Reads a group: up to four hexadecimal digits. -/
def group? (cs : List Char) : Option (List UInt16) :=
  if !cs.isEmpty && cs.length ≤ 4 && cs.all isHexDigit then
    some [.ofNat (digitsValue 16 cs)]
  else none

/-- Reads four octets as two groups. -/
def octetGroups? (cs : List Char) : Option (List UInt16) := do
  let a ← Ipv4.ofChars? cs
  return [.ofNat (a.bits.toNat / 65536), .ofNat (a.bits.toNat % 65536)]

/-- Reads groups with colons between them; the last one may be written as four octets. -/
def groups? : List (List Char) → Option (List UInt16)
  | [] => some []
  | [last] => (group? last).or (octetGroups? last)
  | part :: rest => do return (← group? part) ++ (← groups? rest)

/-- Reads groups that no octets may stand among. -/
def plainGroups? (parts : List (List Char)) : Option (List UInt16) :=
  (parts.mapM group?).map List.flatten

/-- The parts between colons; an empty text has none. -/
def partsOf (cs : List Char) : List (List Char) := if cs.isEmpty then [] else cs.splitOn ':'

/-- The texts before and behind the first two colons in a row. -/
def aroundGap? : List Char → Option (List Char × List Char)
  | [] => none
  | c :: rest =>
    if c == ':' && rest.head? == some ':' then some ([], rest.drop 1)
    else (aroundGap? rest).map fun (front, back) => (c :: front, back)

/-- The address with these groups, if there are eight. -/
def ofGroups? (groups : List UInt16) : Option Ipv6 :=
  if h : groups.length = 8 then some ⟨groups, h⟩ else none

/-- Reads an address; two colons in a row stand for one or more zero groups. -/
def ofChars? (cs : List Char) : Option Ipv6 := do
  match aroundGap? cs with
  | some (front, back) =>
    let front ← plainGroups? (partsOf front)
    let back ← groups? (partsOf back)
    if 7 < front.length + back.length then none
    ofGroups? (front ++ List.replicate (8 - front.length - back.length) 0 ++ back)
  | none => ofGroups? (← groups? (partsOf cs))

/-- The digits of a group, without leading zeros. -/
def groupText (g : UInt16) : List Char := Nat.toDigits 16 g.toNat

/-- The length of the run of zero groups in front. -/
def zeroRun (groups : List UInt16) : Nat := (groups.takeWhile (· == 0)).length

/-- Place and length of the first longest run of zero groups from a place on. -/
def longestRun (place : Nat) : List UInt16 → Nat × Nat
  | [] => (place, 0)
  | g :: rest =>
    let here := zeroRun (g :: rest)
    let later := longestRun (place + 1) rest
    if later.2 ≤ here then (place, here) else later

/-- Groups with colons between them. -/
def joined (groups : List UInt16) : List Char := [':'].intercalate (groups.map groupText)

/-- The address as a text: the first longest run of two or more zero groups is left out. -/
def chars (a : Ipv6) : List Char :=
  let (place, length) := longestRun 0 a.groups
  if length < 2 then joined a.groups
  else joined (a.groups.take place) ++ "::".toList ++ joined (a.groups.drop (place + length))

end Ipv6

end ScriptGate.Setting
