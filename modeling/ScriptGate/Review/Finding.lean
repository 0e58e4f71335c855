/-
  ScriptGate.Review.Finding — what a review has to say about a statement.

  Main statements:
    - `highest?_eq_none_iff` — only an empty list of findings has no highest severity;
    - `le_highest`           — no finding is above the highest severity.
-/

namespace ScriptGate.Review

/-! ## §1. Findings -/

/-- How seriously a finding should be taken, in increasing order. -/
inductive Severity where
  | info
  | warning
  | critical
deriving DecidableEq, Repr, Inhabited

namespace Severity

/-- The place in the order. -/
def rank : Severity → Nat
  | info => 0
  | warning => 1
  | critical => 2

/-- The more serious of two. -/
def max (a b : Severity) : Severity := if a.rank ≤ b.rank then b else a

/-- The name of the severity. -/
def name : Severity → String
  | info => "info"
  | warning => "warning"
  | critical => "critical"

/-- The sign in front of a finding. -/
def icon : Severity → String
  | info => "ℹ️"
  | warning => "⚠️"
  | critical => "🟥"

end Severity

/-- What a finding is about. -/
inductive Category where
  | safety
  | security
  | performance
  | style
deriving DecidableEq, Repr, Inhabited

/-- The name of the category. -/
def Category.name : Category → String
  | safety => "safety"
  | security => "security"
  | performance => "performance"
  | style => "style"

/-- One observation. -/
structure Finding where
  /-- how serious it is -/
  severity : Severity
  /-- what it is about -/
  category : Category
  /-- what it says -/
  message : String
deriving DecidableEq, Repr, Inhabited

namespace Finding

/-- A remark. -/
def info (category : Category) (message : String) : Finding := ⟨.info, category, message⟩

/-- A warning. -/
def warning (category : Category) (message : String) : Finding := ⟨.warning, category, message⟩

/-- A critical finding. -/
def critical (category : Category) (message : String) : Finding := ⟨.critical, category, message⟩

/-- Is the finding critical? -/
def isCritical (f : Finding) : Bool := f.severity == .critical

/-- The finding on a line of its own. -/
def line (f : Finding) : String := f.severity.icon ++ " " ++ f.message

end Finding

/-! ## §2. The highest severity -/

/-- The highest severity of a list, if it has any finding. -/
def highest? : List Finding → Option Severity
  | [] => none
  | f :: rest => some (rest.foldl (fun s f => s.max f.severity) f.severity)

/-- Only an empty list has no highest severity. -/
theorem highest?_eq_none_iff (fs : List Finding) : highest? fs = none ↔ fs = [] := by
  cases fs <;> simp [highest?]

theorem Severity.rank_max (a b : Severity) : (a.max b).rank = Nat.max a.rank b.rank := by
  cases a <;> cases b <;> rfl

theorem rank_le_foldl (fs : List Finding) (s : Severity) :
    s.rank ≤ (fs.foldl (fun s f => s.max f.severity) s).rank ∧
      ∀ f ∈ fs, f.severity.rank ≤ (fs.foldl (fun s f => s.max f.severity) s).rank := by
  induction fs generalizing s with
  | nil => simp
  | cons g rest ih =>
    obtain ⟨h₁, h₂⟩ := ih (s.max g.severity)
    rw [Severity.rank_max] at h₁
    refine ⟨Nat.le_trans (Nat.le_max_left ..) h₁, fun f hf => ?_⟩
    rcases List.mem_cons.1 hf with rfl | hf
    · exact Nat.le_trans (Nat.le_max_right ..) h₁
    · exact h₂ f hf

/-- No finding is above the highest severity. -/
theorem le_highest {fs : List Finding} {s : Severity} (h : highest? fs = some s) :
    ∀ f ∈ fs, f.severity.rank ≤ s.rank := by
  cases fs with
  | nil => simp [highest?] at h
  | cons g rest =>
    obtain rfl := Option.some.inj h
    obtain ⟨h₁, h₂⟩ := rank_le_foldl rest g.severity
    intro f hf
    rcases List.mem_cons.1 hf with rfl | hf
    · exact h₁
    · exact h₂ f hf

end ScriptGate.Review
