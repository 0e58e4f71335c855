/-
  ScriptGate.Domain.Script — what the scripts ask of the labels of a name.

  A name that holds letters from right to left must show every label at its place, so each label
  runs in one direction; and the two joiners stand only where they change how letters join.
  Main statements:
    - `areDirected_ascii`   — the directions allow every name in ASCII;
    - `areJoinersFit_ascii` — the joiners allow every label in ASCII.
-/
import ScriptGate.Domain.Mark
import ScriptGate.Domain.ScriptTable

namespace ScriptGate.Domain

open ScriptGate.Text

/-! ## §1. Directions -/

/-- How a character runs. -/
inductive Direction where
  /-- from left to right -/
  | left
  /-- from right to left -/
  | right
  /-- digits of the Arabic kind -/
  | arabicNumber
  /-- digits of the European kind -/
  | europeanNumber
  /-- with what is around -/
  | neutral
  /-- with the letter it stands on -/
  | mark
deriving DecidableEq, Repr

/-- The direction of a character of a name. -/
def Direction.ofChar (c : Char) : Direction :=
  let n := c.toNat
  if isAscii c then
    if c.isAlpha then .left else if c.isDigit then .europeanNumber else .neutral
  else if inRanges rightRanges n then .right
  else if inRanges arabicNumberRanges n then .arabicNumber
  else if inRanges europeanNumberRanges n then .europeanNumber
  else if inRanges leftMarkRanges n then .left
  else if inRanges nonSpacingRanges n then .mark
  else if inRanges neutralRanges n then .neutral
  else .left

/-- Does this direction make a name one of both directions? -/
def Direction.turns : Direction → Bool
  | .right | .arabicNumber => true
  | _ => false

/-- Does a label of these directions run from left to right throughout? -/
def runsLeft (ds : List Direction) : Bool :=
  ds.all (!·.turns) &&
    (ds.reverse.dropWhile (· == .mark)).head?.any fun d => d == .left || d == .europeanNumber

/-- Does a label of these directions run from right to left throughout, with digits of one kind? -/
def runsRight (ds : List Direction) : Bool :=
  ds.all (· != .left) && !(ds.contains .arabicNumber && ds.contains .europeanNumber) &&
    (ds.reverse.dropWhile (· == .mark)).head?.any fun d => d.turns || d == .europeanNumber

/-- Does a label run in one direction, that of its first letter? -/
def runsOneWay (label : List Char) : Bool :=
  let ds := label.map Direction.ofChar
  match ds with
  | [] => true
  | .left :: _ => runsLeft ds
  | .right :: _ => runsRight ds
  | _ :: _ => false

/-- May these labels stand in one name? -/
def areDirected (labels : List (List Char)) : Bool :=
  !labels.any (·.any fun c => (Direction.ofChar c).turns) || labels.all runsOneWay

/-! ## §2. Joiners -/

/-- Does a character leave the letters around it joined? -/
def isTransparent (c : Char) : Bool :=
  !isAscii c && (inRanges nonSpacingRanges c.toNat || c.toNat == 0x1E94B)

/-- Is the nearest letter one that joins on both sides, or on the side these ranges are for? -/
def meetsJoining (ranges : List (Nat × Nat)) (cs : List Char) : Bool :=
  match cs.dropWhile isTransparent with
  | c :: _ => inRanges ranges c.toNat || inRanges dualJoiningRanges c.toNat
  | [] => false

/-- May a joiner stand between two texts, the one before it from its end?  Both joiners stand
    behind a sign that takes the vowel of its letter away, and the one that keeps letters from
    joining stands between letters that would join. -/
def joinerStands (joiner : Char) (before after : List Char) : Bool :=
  before.head?.any (markClass · == 9) ||
    (joiner == '\u200c' && meetsJoining leftJoiningRanges before &&
      meetsJoining rightJoiningRanges after)

/-- Do all joiners of a label stand where they may? -/
def areJoinersFit (label : List Char) : Bool := go [] label
where
  /-- Walks on with the text already passed, nearest character first. -/
  go (before : List Char) : List Char → Bool
    | [] => true
    | c :: rest =>
      (!(c == '\u200c' || c == '\u200d') || joinerStands c before rest) && go (c :: before) rest

/-! ## §3. Inside ASCII -/

theorem turns_ascii {c : Char} (h : isAscii c = true) : (Direction.ofChar c).turns = false := by
  simp only [Direction.ofChar, h, if_true]
  split
  · rfl
  · split <;> rfl

/-- The directions allow every name in ASCII. -/
theorem areDirected_ascii {labels : List (List Char)}
    (h : ∀ label ∈ labels, label.all isAscii = true) : areDirected labels = true := by
  have hn : (labels.any (·.any fun c => (Direction.ofChar c).turns)) = false := by
    rw [List.any_eq_false]
    intro label hl
    rw [Bool.not_eq_true, List.any_eq_false]
    intro c hc
    rw [turns_ascii (List.all_eq_true.1 (h label hl) c hc)]
    decide
  rw [areDirected, hn]
  rfl

theorem areJoinersFit_go_ascii {cs : List Char} (h : cs.all isAscii = true) :
    ∀ before, areJoinersFit.go before cs = true := by
  induction cs with
  | nil => intro _; rfl
  | cons c rest ih =>
    intro before
    simp only [List.all_cons, Bool.and_eq_true] at h
    have hc : (c == '\u200c' || c == '\u200d') = false := by
      rw [Bool.or_eq_false_iff]
      constructor <;> (rw [beq_eq_false_iff_ne]; rintro rfl; exact absurd h.1 (by decide))
    rw [areJoinersFit.go, ih h.2, hc]
    rfl

/-- The joiners allow every label in ASCII. -/
theorem areJoinersFit_ascii {label : List Char} (h : label.all isAscii = true) :
    areJoinersFit label = true := areJoinersFit_go_ascii h []

end ScriptGate.Domain
