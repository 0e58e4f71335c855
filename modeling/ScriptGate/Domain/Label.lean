/-
  ScriptGate.Domain.Label — labels of names, in letters and in ASCII.

  A label beyond ASCII is written with the letters it shares with ASCII first, followed by digits
  for where the others go: the characters come in increasing order, and every digit sequence is
  the distance from the insertion before, in a base that adapts to the distances met.  Reading
  takes the same steps back.
  Main statements:
    - `threshold_pos`         — every digit has room, so the digits end;
    - `encoded_ascii`         — an ASCII label is written as it is;
    - `readDistance?_shorter` — a distance takes at least one digit, so reading ends.
-/
import ScriptGate.Text.Class

namespace ScriptGate.Domain

open ScriptGate.Text

/-! ## §1. Distances -/

/-- A digit below thirty-six: the letters, then the decimal digits. -/
def digit36 (n : Nat) : Char := "abcdefghijklmnopqrstuvwxyz0123456789".toList.getD n 'a'

/-- The values from which on a digit ends its sequence; `place` grows by 36 from digit to digit. -/
def threshold (place bias : Nat) : Nat := min 26 (max 1 (place - bias))

theorem threshold_pos (place bias : Nat) : 1 ≤ threshold place bias := by
  simp only [threshold]; omega

/-- The digits of a distance. -/
def distance (bias place n : Nat) : List Char :=
  let t := threshold place bias
  if n < t then [digit36 n]
  else digit36 (t + (n - t) % (36 - t)) :: distance bias (place + 36) ((n - t) / (36 - t))
termination_by n
decreasing_by
  have h := threshold_pos place bias
  exact Nat.lt_of_le_of_lt (Nat.div_le_self _ _) (by omega)

/-- Divides by 35 until little is left, and adds up 36 for every time. -/
def scaled (n place : Nat) : Nat × Nat :=
  if 455 < n then scaled (n / 35) (place + 36) else (n, place)
termination_by n
decreasing_by exact Nat.div_lt_self (by omega) (by omega)

/-- The bias behind a distance, when `done` characters are written. -/
def adapted (n done : Nat) (isFirst : Bool) : Nat :=
  let start := if isFirst then n / 700 else n / 2
  let (rest, place) := scaled (start + start / done) 0
  place + 36 * rest / (rest + 38)

/-! ## §2. Writing -/

/-- A label half written. -/
structure Writing where
  /-- digits so far -/
  digits : List Char
  /-- distance since the last insertion -/
  gap : Nat
  /-- the bias of the next distance -/
  bias : Nat
  /-- characters that are written -/
  done : Nat

/-- Passes a character of the label while those with code point `n` are inserted. -/
def Writing.pass (basic n : Nat) (w : Writing) (c : Char) : Writing :=
  if c.toNat < n then { w with gap := w.gap + 1 }
  else if c.toNat = n then
    ⟨w.digits ++ distance w.bias 36 w.gap, 0, adapted w.gap (w.done + 1) (w.done == basic),
      w.done + 1⟩
  else w

/-- Inserts the characters with these code points, in order; all below `reached` are in. -/
def insertAll (label : List Char) (basic : Nat) (reached : Nat) : List Nat → Writing → Writing
  | [], w => w
  | n :: rest, w =>
    let opened := { w with gap := w.gap + (n - reached) * (w.done + 1) }
    let passed := label.foldl (Writing.pass basic n) opened
    insertAll label basic (n + 1) rest { passed with gap := passed.gap + 1 }

/-- The code points beyond ASCII, each once, in order. -/
def beyondAscii (label : List Char) : List Nat :=
  (((label.filter (! isAscii ·)).map Char.toNat).mergeSort (· ≤ ·)).eraseDups

/-- A label in ASCII: behind a mark of its own, unless it is in ASCII already. -/
def encoded (label : List Char) : List Char :=
  if label.all isAscii then label
  else
    let basic := label.filter isAscii
    let written := insertAll label basic.length 128 (beyondAscii label) ⟨[], 0, 72, basic.length⟩
    "xn--".toList ++ basic ++ (if basic.isEmpty then [] else ['-']) ++ written.digits

/-- An ASCII label is written as it is. -/
theorem encoded_ascii {label : List Char} (h : label.all isAscii = true) :
    encoded label = label := if_pos h

/-! ## §3. Reading -/

/-- The value of a digit. -/
def digitValue? (c : Char) : Option Nat :=
  if 'a' ≤ c && c ≤ 'z' then some (c.toNat - 'a'.toNat)
  else if '0' ≤ c && c ≤ '9' then some (c.toNat - '0'.toNat + 26)
  else none

/-- The greatest place, and the greatest worth of a digit, that a reader follows. -/
def greatestSum : Nat := 0xFFFFFFFF

/-- Reads the digits of a distance, the one at `place` worth `weight`, and adds them to `sum`. -/
def readDistance? (bias place weight sum : Nat) : List Char → Option (Nat × List Char)
  | [] => none
  | c :: rest =>
    match digitValue? c with
    | none => none
    | some d =>
      let t := threshold place bias
      if greatestSum < sum + d * weight then none
      else if d < t then some (sum + d * weight, rest)
      else if greatestSum < weight * (36 - t) then none
      else readDistance? bias (place + 36) (weight * (36 - t)) (sum + d * weight) rest

/-- A distance takes at least one digit. -/
theorem readDistance?_shorter {bias : Nat} {cs : List Char} :
    ∀ {place weight sum : Nat} {r : Nat × List Char},
      readDistance? bias place weight sum cs = some r → r.2.length < cs.length := by
  -- every digit that is read goes on with what stands behind it
  induction cs with
  | nil => intro _ _ _ _ h; simp [readDistance?] at h
  | cons c rest ih =>
    intro place weight sum r h
    rw [readDistance?] at h
    split at h
    · simp at h
    · dsimp only at h
      split at h
      · simp at h
      · split at h
        · rw [← Option.some.inj h]; simp
        · split at h
          · simp at h
          · exact Nat.lt_succ_of_lt (ih h)

/-- A label half read. -/
structure Reading where
  /-- the letters so far -/
  letters : List Char
  /-- the code point of the letter inserted last -/
  point : Nat
  /-- the place behind the letter inserted last -/
  place : Nat
  /-- the bias of the next distance -/
  bias : Nat

/-- Inserts the letters that the digits stand for. -/
def Reading.insertAll? (r : Reading) : List Char → Option (List Char)
  | [] => some r.letters
  | c :: rest =>
    match h : readDistance? r.bias 36 1 r.place (c :: rest) with
    | none => none
    | some (sum, left) =>
      let room := r.letters.length + 1
      let point := r.point + sum / room
      let place := sum % room
      have : left.length < rest.length + 1 := readDistance?_shorter h
      if point.isValidChar then
        insertAll? ⟨r.letters.insertIdx place (Char.ofNat point), point, place + 1,
          adapted (sum - r.place) room (r.place == 0)⟩ left
      else none
termination_by cs => cs.length

/-- Reads what stands behind the mark of a label in ASCII. -/
def decoded? (cs : List Char) : Option (List Char) :=
  let digits := (cs.reverse.takeWhile (· != '-')).reverse
  let basic := cs.take (cs.length - digits.length)
  if digits.isEmpty || basic == ['-'] || !cs.all isAscii then none
  else Reading.insertAll? ⟨basic.dropLast, 128, 0, 72⟩ digits

end ScriptGate.Domain
