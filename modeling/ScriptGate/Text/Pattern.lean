/-
  ScriptGate.Text.Pattern — search patterns over characters, with ordered choice.

  The review rules look for shapes such as "the word WHERE, blanks, a name, an equals sign" in
  the text of a statement.  A pattern is matched at a place between two characters; choices and
  repetitions are tried in order, so the first way to succeed decides how far a match reaches
  and what its group holds.  Every repetition is one of single characters, so a match is found
  by structural recursion on the pattern and on the text.

  Main statements:
    - `occurs_iff` — a pattern occurs in a text when it matches at one of its places.
-/
import ScriptGate.Text.Class

namespace ScriptGate.Text

/-! ## §1. Patterns -/

/-- A pattern.  `seq` matches its parts one after the other, `alt` prefers its first part. -/
inductive Pattern where
  /-- the empty text, here -/
  | here
  /-- one character of a class -/
  | one (p : Char → Bool)
  /-- as many characters of a class as there are, at least `least` of them, giving back as few
      as the rest needs -/
  | run (least : Nat) (p : Char → Bool)
  /-- as few characters of a class as the rest needs -/
  | shortRun (p : Char → Bool)
  /-- between a word character and what is none, or at an end of the text beside one -/
  | wordEdge
  /-- at the front of the text -/
  | front
  /-- the first part, then the second -/
  | seq (a b : Pattern)
  /-- the first part or, failing that, the second -/
  | alt (a b : Pattern)
  /-- what the pattern matches is remembered -/
  | group (a : Pattern)

namespace Pattern

/-- The parts one after the other. -/
def all (parts : List Pattern) : Pattern := parts.foldr seq here

/-- The first part that leads to a match. -/
def any : List Pattern → Pattern
  | [] => one fun _ => false
  | [a] => a
  | a :: rest => alt a (any rest)

/-- The pattern if it leads to a match, else nothing. -/
def optional (a : Pattern) : Pattern := alt a here

/-- This text, letter by letter. -/
def text (s : String) : Pattern := all (s.toList.map fun c => one (· == c))

/-- Small letters and capitals alike.  The long s and the Kelvin sign are the two characters
    beyond ASCII that fold to a letter of ASCII. -/
def sameLetter (a c : Char) : Bool :=
  a.toLower == c.toLower || (a.toLower == 's' && c == 'ſ') || (a.toLower == 'k' && c == '\u212a')

/-- This text of ASCII letters, small or capital. -/
def anyCase (s : String) : Pattern := all (s.toList.map fun a => one (sameLetter a))

/-- This text as a word of its own. -/
def word (s : String) : Pattern := all [wordEdge, text s, wordEdge]

/-- Blanks, at least one. -/
def blanks : Pattern := run 1 isBlank

/-- Blanks, or none. -/
def blanksOrNone : Pattern := run 0 isBlank

/-! ## §2. Matching at a place -/

/-- A place in a text: the character before it and the text after it. -/
structure Place where
  /-- the character just passed -/
  before : Option Char
  /-- the text ahead -/
  ahead : List Char
deriving DecidableEq, Repr

/-- Is there a word character on exactly one side? -/
def Place.isWordEdge (p : Place) : Bool :=
  p.before.any isWordChar != p.ahead.head?.any isWordChar

/-- Tries the longest run first and gives characters back one at a time. -/
def longest (p : Char → Bool) (k : Place → Option α) : Nat → Option Char → List Char → Option α
  | least, before, c :: rest =>
    if p c then
      (longest p k (least - 1) (some c) rest).or
        (if least = 0 then k ⟨before, c :: rest⟩ else none)
    else if least = 0 then k ⟨before, c :: rest⟩ else none
  | least, before, [] => if least = 0 then k ⟨before, []⟩ else none

/-- Tries the shortest run first and takes characters on one at a time. -/
def shortest (p : Char → Bool) (k : Place → Option α) : Option Char → List Char → Option α
  | before, c :: rest =>
    (k ⟨before, c :: rest⟩).or (if p c then shortest p k (some c) rest else none)
  | before, [] => k ⟨before, []⟩

/-- Matches the pattern at a place and goes on with `k` behind it.  `seen` is what the group
    remembered last. -/
def step : Pattern → Place → List Char → (Place → List Char → Option α) → Option α
  | here, p, seen, k => k p seen
  | one q, ⟨_, c :: rest⟩, seen, k => if q c then k ⟨some c, rest⟩ seen else none
  | one _, ⟨_, []⟩, _, _ => none
  | run least q, p, seen, k => longest q (k · seen) least p.before p.ahead
  | shortRun q, p, seen, k => shortest q (k · seen) p.before p.ahead
  | wordEdge, p, seen, k => if p.isWordEdge then k p seen else none
  | front, p, seen, k => if p.before.isNone then k p seen else none
  | seq a b, p, seen, k => a.step p seen fun p seen => b.step p seen k
  | alt a b, p, seen, k => (a.step p seen k).or (b.step p seen k)
  | group a, p, seen, k =>
    a.step p seen fun q _ => k q (p.ahead.take (p.ahead.length - q.ahead.length))

/-! ## §3. Searching a text -/

/-- A match: how many characters it covers and what its group remembered. -/
structure Match where
  /-- number of characters covered -/
  length : Nat
  /-- text of the group -/
  group : List Char
deriving DecidableEq, Repr

/-- The match at a place, if there is one. -/
def matchAt (pat : Pattern) (p : Place) : Option Match :=
  pat.step p [] fun q seen => some ⟨p.ahead.length - q.ahead.length, seen⟩

/-- The first match from a place on. -/
def findFrom (pat : Pattern) (before : Option Char) : List Char → Option Match
  | [] => pat.matchAt ⟨before, []⟩
  | c :: rest => (pat.matchAt ⟨before, c :: rest⟩).or (findFrom pat (some c) rest)

/-- The first match in a text. -/
def find? (pat : Pattern) (cs : List Char) : Option Match := pat.findFrom none cs

/-- Does the pattern match somewhere in the text? -/
def occurs (pat : Pattern) (cs : List Char) : Bool := (pat.find? cs).isSome

/-- All matches that cover something, from left to right, each behind the one before. -/
def findAll (pat : Pattern) (cs : List Char) : List Match := go 0 none cs
where
  /-- `skip` characters still belong to the last match. -/
  go (skip : Nat) (before : Option Char) : List Char → List Match
    | [] => []
    | c :: rest =>
      match skip with
      | n + 1 => go n (some c) rest
      | 0 =>
        match pat.matchAt ⟨before, c :: rest⟩ with
        | some m =>
          if m.length = 0 then go 0 (some c) rest else m :: go (m.length - 1) (some c) rest
        | none => go 0 (some c) rest

/-- The number of matches. -/
def count (pat : Pattern) (cs : List Char) : Nat := (pat.findAll cs).length

/-- What the group of the first match holds. -/
def capture? (pat : Pattern) (cs : List Char) : Option (List Char) :=
  (pat.find? cs).map Match.group

/-! ## §4. Places -/

/-- The places of a text: before each of its characters and at its end. -/
def places (before : Option Char) : List Char → List Place
  | [] => [⟨before, []⟩]
  | c :: rest => ⟨before, c :: rest⟩ :: places (some c) rest

theorem isSome_findFrom (pat : Pattern) (cs : List Char) (before : Option Char) :
    (pat.findFrom before cs).isSome = (places before cs).any fun p => (pat.matchAt p).isSome := by
  induction cs generalizing before with
  | nil => simp [findFrom, places]
  | cons c rest ih => simp [findFrom, places, Option.isSome_or, ih]

/-- A pattern occurs in a text when it matches at one of its places. -/
theorem occurs_iff (pat : Pattern) (cs : List Char) :
    pat.occurs cs = true ↔ ∃ p ∈ places none cs, (pat.matchAt p).isSome = true := by
  rw [occurs, find?, isSome_findFrom, List.any_eq_true]

end Pattern

end ScriptGate.Text
