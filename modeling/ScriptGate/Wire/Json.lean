/-
  ScriptGate.Wire.Json — JSON values.

  Numbers are decimals: a mantissa and the number of its places behind the point.  Fields keep
  the order in which they are written, also those of one name.  A name that is given more than once
  is not told from one that is missing: what is looked for under it is not found.
  Main statements:
    - `get?_eq_some_iff` — a field is found exactly if it is the only one of its name.
-/

namespace ScriptGate.Wire

/-- A JSON value. -/
inductive Json where
  | null
  | bool (b : Bool)
  | number (mantissa : Int) (places : Nat)
  | text (s : String)
  | array (items : List Json)
  | object (fields : List (String × Json))
deriving Inhabited, Repr

namespace Json

/-- A whole number. -/
def nat (n : Nat) : Json := .number n 0

/-- A list of texts. -/
def texts (items : List String) : Json := .array (items.map .text)

/-- A field that is left out without a value. -/
def field? (name : String) : Option Json → List (String × Json)
  | some j => [(name, j)]
  | none => []

/-- The values of all fields of a name, in order. -/
def named (name : String) (fields : List (String × Json)) : List Json :=
  (fields.filter (·.1 == name)).map Prod.snd

/-- The value of a field of an object, if it is the only one of its name. -/
def get? (name : String) : Json → Option Json
  | .object fields =>
    match named name fields with
    | [j] => some j
    | _ => none
  | _ => none

/-- The text, if it is one. -/
def text? : Json → Option String
  | .text s => some s
  | _ => none

/-- The truth value, if it is one. -/
def bool? : Json → Option Bool
  | .bool b => some b
  | _ => none

/-- The items, if it is a list. -/
def array? : Json → Option (List Json)
  | .array items => some items
  | _ => none

theorem named_append (name : String) (front behind : List (String × Json)) :
    named name (front ++ behind) = named name front ++ named name behind := by
  rw [named, List.filter_append, List.map_append]
  rfl

theorem named_cons (name : String) (f : String × Json) (rest : List (String × Json)) :
    named name (f :: rest) = if f.1 = name then f.2 :: named name rest else named name rest := by
  unfold named
  rw [List.filter_cons]
  by_cases h : f.1 = name
  · rw [if_pos h, if_pos (beq_iff_eq.2 h), List.map_cons]
  · rw [if_neg h, if_neg (fun hsame => h (beq_iff_eq.1 hsame))]

theorem mem_named {name : String} {j : Json} {fields : List (String × Json)} :
    j ∈ named name fields ↔ (name, j) ∈ fields := by
  simp [named]

/-- **A field is found exactly if it is the only one of its name.** -/
theorem get?_eq_some_iff {name : String} {fields : List (String × Json)} {v : Json} :
    (object fields).get? name = some v ↔ named name fields = [v] := by
  unfold get?
  dsimp only
  constructor
  · intro h
    split at h
    case h_1 w hw =>
      obtain rfl := Option.some.inj h
      exact hw
    case h_2 => cases h
  · intro h
    rw [h]

end Json

end ScriptGate.Wire
