/-
  ScriptGate.Sql.Operator — how tightly operators bind.

  Main statements:
    - `binding_nil`    — nothing binds at the end of a text;
    - `binding_le`     — no operator binds more tightly than a cast or a subscript.
-/
import ScriptGate.Sql.Token

namespace ScriptGate.Sql

/-! ## §1. Signs -/

/-- Binary operators written as signs, with how tightly they bind. -/
def signBindings : List (String × Nat) := [
  ("->", 16), ("->>", 16), ("#>", 16), ("#>>", 16), ("@>", 16), ("<@", 16), ("#-", 16),
  ("@?", 16), ("@@", 16),
  ("=", 20), ("<", 20), ("<=", 20), ("!=", 20), (">", 20), (">=", 20), ("==", 20), ("~", 20),
  ("~*", 20), ("!~", 20), ("!~*", 20), ("~~", 20), ("~~*", 20), ("!~~", 20), ("!~~*", 20),
  ("<=>", 20),
  ("|", 21), ("^", 22), (">>", 22), ("<<", 22), ("&", 23), ("+", 30), ("-", 30),
  ("*", 40), ("/", 40), ("//", 40), ("%", 40), ("||", 40), ("&&", 50), ("^@", 50)]

/-- Signs that bind like an operator: a cast and a subscript do, and so do two signs that no
    operator is written with. -/
def otherSignBindings : List (String × Nat) := [("#", 22), ("::", 50), ("!", 50), ("[", 50)]

/-- Comparisons, which may be quantified by ANY, ALL or SOME. -/
def comparisons : List String := [">", "<", ">=", "<=", "=", "==", "!="]

/-! ## §2. Keywords -/

/-- Operators written as keywords, with how tightly they bind. -/
def keywordBindings : List (String × Nat) := [
  ("OR", 5), ("AND", 10), ("IS", 17), ("LIKE", 19), ("ILIKE", 19), ("RLIKE", 19),
  ("REGEXP", 19), ("SIMILAR", 19), ("IN", 20), ("BETWEEN", 20), ("OPERATOR", 20), ("XOR", 24),
  ("DIV", 40)]

/-- Operators that NOT may stand in front of. -/
def negatedBindings : List (String × Nat) := [
  ("LIKE", 19), ("ILIKE", 19), ("RLIKE", 19), ("REGEXP", 19), ("SIMILAR", 19), ("IN", 20),
  ("BETWEEN", 20)]

/-- How tightly LIKE and its kin bind. -/
def likeBinding : Nat := 19

/-- How tightly BETWEEN binds. -/
def betweenBinding : Nat := 20

/-- How tightly a leading NOT binds. -/
def notBinding : Nat := 15

/-- How tightly a leading sign binds. -/
def leadingSignBinding : Nat := 40

/-- How tightly PRIOR binds. -/
def priorBinding : Nat := 30

/-! ## §3. What stands ahead -/

/-- How tightly the operator binds that the tokens start with; zero if they start with none. -/
def binding (ts : List Token) : Nat :=
  match ts with
  | .sign s :: _ => ((signBindings.lookup s).or (otherSignBindings.lookup s)).getD 0
  | .word w :: rest =>
    if w.keyword == "NOT" then (negatedBindings.lookup (rest.head?.elim "" Token.keyword)).getD 0
    else if w.keyword == "AT" then
      if (rest.take 2).map Token.keyword == ["TIME", "ZONE"] then 41 else 0
    else (keywordBindings.lookup w.keyword).getD 0
  | _ => 0

@[simp] theorem binding_nil : binding [] = 0 := rfl

theorem lookup_getD_le {table : List (String × Nat)} {n : Nat} (h : ∀ p ∈ table, p.2 ≤ n)
    (k : String) : (table.lookup k).getD 0 ≤ n := by
  induction table with
  | nil => simp
  | cons p rest ih =>
    rw [List.lookup_cons]
    split
    · exact h p (List.mem_cons_self ..)
    · exact ih fun q hq => h q (List.mem_cons_of_mem _ hq)

/-- No operator binds more tightly than a cast or a subscript. -/
theorem binding_le (ts : List Token) : binding ts ≤ 50 := by
  unfold binding
  split
  · cases h : signBindings.lookup _ with
    | none => exact lookup_getD_le (by decide) _
    | some n =>
      have : (signBindings.lookup ‹String›).getD 0 ≤ 50 := lookup_getD_le (by decide) _
      simpa [h] using this
  · split
    · exact Nat.le_trans (lookup_getD_le (n := 20) (by decide) _) (by decide)
    · split
      · split <;> decide
      · exact Nat.le_trans (lookup_getD_le (n := 40) (by decide) _) (by decide)
  · exact Nat.zero_le _

end ScriptGate.Sql
