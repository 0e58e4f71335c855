/-
  ScriptGate.Sql.Rule — grammar rules over tokens.

  A rule reads some tokens off the front and returns a value with the tokens behind.  A rule may
  refuse for two reasons: the tokens do not fit, or the text nests too deeply.  A choice between
  two readings tries the first and goes back to the start when it does not fit; when it nests too
  deeply, so would the second, and the refusal stands.
-/
import ScriptGate.Sql.Token

namespace ScriptGate.Sql

/-! ## §1. Rules -/

/-- Why a rule refuses. -/
inductive Refusal where
  /-- the tokens do not fit -/
  | unexpected
  /-- the text nests too deeply -/
  | tooDeep
deriving DecidableEq, Repr

/-- Where a rule is applied. -/
structure Context where
  /-- how many more levels may be opened -/
  levels : Nat
  /-- inside the CONNECT BY clause, where PRIOR is an operator -/
  hierarchy : Bool := false
deriving DecidableEq, Repr

/-- A rule for values of type `α`. -/
def Rule (α : Type) : Type := Context → List Token → Except Refusal (α × List Token)

namespace Rule

instance : Monad Rule where
  pure a := fun _ ts => .ok (a, ts)
  bind r f := fun c ts =>
    match r c ts with
    | .ok (a, ts) => f a c ts
    | .error e => .error e

instance : Inhabited (Rule α) := ⟨fun _ _ => .error .unexpected⟩

/-- The tokens do not fit. -/
def refuse : Rule α := fun _ _ => .error .unexpected

/-- Goes on only if the condition holds. -/
def require (b : Bool) : Rule Unit := if b then pure () else refuse

/-- The tokens ahead. -/
def ahead : Rule (List Token) := fun _ ts => .ok (ts, ts)

/-- The next token, which stays. -/
def peek : Rule (Option Token) := fun _ ts => .ok (ts.head?, ts)

/-- Does the next token satisfy `p`?  It stays. -/
def sees (p : Token → Bool) : Rule Bool := fun _ ts => .ok (ts.head?.any p, ts)

/-- Are all tokens read? -/
def atEnd : Rule Bool := fun _ ts => .ok (ts.isEmpty, ts)

/-- Takes the next token, whatever it is. -/
def next : Rule Token := fun _ ts =>
  match ts with
  | t :: rest => .ok (t, rest)
  | [] => .error .unexpected

/-- Drops the next token, if there is one. -/
def skip : Rule Unit := fun _ ts => .ok ((), ts.drop 1)

/-- The place the rule is applied in. -/
def context : Rule Context := fun c ts => .ok (c, ts)

/-! ## §2. Single tokens -/

/-- Takes the next token if it satisfies `p`. -/
def take? (p : Token → Bool) : Rule Bool := fun _ ts =>
  match ts with
  | t :: rest => if p t then .ok (true, rest) else .ok (false, ts)
  | [] => .ok (false, [])

/-- Takes the sign `s` if it is next. -/
def sign? (s : String) : Rule Bool := take? (Token.isSign s)

/-- The sign `s`. -/
def sign (s : String) : Rule Unit := do require (← sign? s)

/-- Takes the keyword `k` if it is next. -/
def keyword? (k : String) : Rule Bool := take? (Token.isKeyword k)

/-- The keyword `k`. -/
def keyword (k : String) : Rule Unit := do require (← keyword? k)

/-- Takes all of the keywords `ks` if they are next, else none of them. -/
def keywords? (ks : List String) : Rule Bool := fun _ ts =>
  if (ts.take ks.length).map Token.keyword == ks then .ok (true, ts.drop ks.length)
  else .ok (false, ts)

/-- All of the keywords `ks`. -/
def keywords (ks : List String) : Rule Unit := do require (← keywords? ks)

/-- Takes one of the keywords `ks` if one is next, and tells which. -/
def oneOf? (ks : List String) : Rule (Option String) := fun _ ts =>
  match ts with
  | .word w :: rest => if ks.contains w.keyword then .ok (some w.keyword, rest) else .ok (none, ts)
  | _ => .ok (none, ts)

/-- One of the keywords `ks`. -/
def oneOf (ks : List String) : Rule String := do
  match ← oneOf? ks with
  | some k => return k
  | none => refuse

/-- Takes the first of several sequences of keywords that is next, if one is. -/
def anyKeywords? : List (List String) → Rule Bool
  | [] => return false
  | ks :: rest => do
    if ← keywords? ks then return true
    anyKeywords? rest

/-! ## §3. Going back -/

/-- The rule if it fits; if it does not, nothing is taken. -/
def maybe (r : Rule α) : Rule (Option α) := fun c ts =>
  match r c ts with
  | .ok (a, rest) => .ok (some a, rest)
  | .error .unexpected => .ok (none, ts)
  | .error .tooDeep => .error .tooDeep

/-- The first rule or, where it refuses for whatever reason, the second.  If neither reads the
    tokens, the refusal of the first stands. -/
def orElse (r s : Rule α) : Rule α := fun c ts =>
  match r c ts with
  | .ok x => .ok x
  | .error e =>
    match s c ts with
    | .ok x => .ok x
    | .error _ => .error e

/-- The rule one level further down. -/
def nested (r : Rule α) : Rule α := fun c ts =>
  match c.levels with
  | 0 => .error .tooDeep
  | n + 1 => r { c with levels := n } ts

/-- The rule inside the CONNECT BY clause. -/
def inHierarchy (r : Rule α) : Rule α := fun c ts => r { c with hierarchy := true } ts

/-! ## §4. Repetition -/

/-- Repeats a step until it has nothing more.  Each step takes a token, so the number of tokens
    ahead bounds the steps. -/
def repeated (step : Rule (Option α)) : Rule (List α) := fun c ts => go ts.length c ts
where
  /-- At most `n` steps. -/
  go : Nat → Rule (List α)
    | 0 => pure []
    | n + 1 => do
      match ← step with
      | some a => return a :: (← go n)
      | none => return []

/-- Repeats a step as long as it reports one more. -/
def while? (step : Rule Bool) : Rule Unit := do
  let _ ← repeated (do return if ← step then some () else none)

/-- Applies a rule once and again behind each separator. -/
def separated (separator : Rule Bool) (r : Rule α) : Rule (List α) := do
  let first ← r
  let others ← repeated do
    if ← separator then return some (← r)
    return none
  return first :: others

/-- One or more, with commas between. -/
def commaSeparated (r : Rule α) : Rule (List α) := separated (sign? ",") r

/-- With commas between, or none at all before the sign `close`, which stays. -/
def commaSeparatedBefore (close : String) (r : Rule α) : Rule (List α) := do
  if ← sees (Token.isSign close) then return []
  commaSeparated r

/-- Between parentheses. -/
def parenthesized (r : Rule α) : Rule α := do
  sign "("
  let a ← r
  sign ")"
  return a

/-- The rule behind the keyword `k`, if that is next. -/
def behind? (k : String) (r : Rule α) : Rule (Option α) := do
  if ← keyword? k then return some (← r)
  return none

/-- A rule whose value is not needed. -/
def ignored (r : Rule α) : Rule Unit := do
  let _ ← r

end Rule

end ScriptGate.Sql
