/-
  ScriptGate.Build — sums that do not fit, in the two builds of the tool.

  Rows are counted in words of sixty-four bits.  A build for development checks every sum and panics
  at the first one that does not fit: the work is over there, and the world is as it was left.  A
  build for release does not check, and such a sum starts over.  What is done is written once, for
  any way of adding, so that both builds do the same as long as every sum fits.
  Main statements:
    - `run_bind_error`       — nothing is done behind a panic;
    - `Follows.bind`         — work that follows other work step by step follows it as a whole;
    - `follows_checkedSum`   — a checked sum follows the one that is not checked.
-/

namespace ScriptGate

/-! ## §1. Panics -/

/-- What ends the work of a build that checks its sums. -/
inductive Panic where
  /-- a sum does not fit into a word -/
  | overflow
deriving DecidableEq, Repr

/-- What is told of it. -/
def Panic.message : Panic → String
  | overflow => "attempt to add with overflow"

/-- Work in a world that may panic; the world is left as it is then. -/
abbrev Checked (σ : Type) := ExceptT Panic (StateM σ)

/-! ## §2. Sums -/

/-- A way to add words. -/
abbrev Addition (m : Type → Type) := UInt64 → UInt64 → m UInt64

/-- A sum that does not fit starts over. -/
def wrappingSum [Pure m] : Addition m := fun a b => pure (a + b)

/-- A sum that does not fit is a panic. -/
def checkedSum [Monad m] [MonadExceptOf Panic m] : Addition m := fun a b =>
  if a.toNat + b.toNat < UInt64.size then pure (a + b) else throw .overflow

theorem checkedSum_eq_pure {m : Type → Type} [Monad m] [MonadExceptOf Panic m] {a b : UInt64}
    (h : a.toNat + b.toNat < UInt64.size) : checkedSum (m := m) a b = pure (a + b) := if_pos h

theorem checkedSum_eq_throw {m : Type → Type} [Monad m] [MonadExceptOf Panic m] {a b : UInt64}
    (h : ¬ a.toNat + b.toNat < UInt64.size) : checkedSum (m := m) a b = throw .overflow := if_neg h

/-! ## §3. Work that may panic -/

/-- What cannot panic is done as it is. -/
theorem run_lift_bind (x : StateM σ α) (f : α → Checked σ β) (s : σ) :
    ((liftM x : Checked σ α) >>= f).run s = (f (x s).1).run (x s).2 := rfl

theorem run_bind_ok {x : Checked σ α} {s s' : σ} {a : α} (h : x.run s = (.ok a, s'))
    (f : α → Checked σ β) : (x >>= f).run s = (f a).run s' := by
  show ExceptT.bindCont f (x.run s).1 (x.run s).2 = _
  rw [h]
  rfl

/-- Nothing is done behind a panic. -/
theorem run_bind_error {x : Checked σ α} {s : σ} {panic : Panic}
    (h : (x.run s).1 = .error panic) (f : α → Checked σ β) :
    (x >>= f).run s = (.error panic, (x.run s).2) := by
  show ExceptT.bindCont f (x.run s).1 (x.run s).2 = _
  rw [h]
  rfl

/-! ## §4. The two builds -/

/-- The one work does what the other one does, or it panics. -/
def Follows (x : Checked σ α) (y : StateM σ α) : Prop :=
  ∀ s, x.run s = (.ok (y s).1, (y s).2) ∨ ∃ panic, (x.run s).1 = .error panic

theorem Follows.pure (a : α) : Follows (σ := σ) (Pure.pure a) (Pure.pure a) := fun _ => .inl rfl

/-- Work without sums is the same in both builds. -/
theorem Follows.lift (y : StateM σ α) : Follows (liftM y) y := fun _ => .inl rfl

/-- **Work that follows other work step by step follows it as a whole.** -/
theorem Follows.bind {x : Checked σ α} {y : StateM σ α} {f : α → Checked σ β}
    {g : α → StateM σ β} (h : Follows x y) (hf : ∀ a, Follows (f a) (g a)) :
    Follows (x >>= f) (y >>= g) := by
  intro s
  rcases h s with hsame | ⟨panic, hpanic⟩
  · rw [run_bind_ok hsame]
    exact hf (y s).1 (y s).2
  · rw [run_bind_error hpanic]
    exact .inr ⟨panic, rfl⟩

/-- A checked sum follows the one that is not checked. -/
theorem follows_checkedSum (a b : UInt64) :
    Follows (σ := σ) (checkedSum a b) (wrappingSum a b) := by
  by_cases h : a.toNat + b.toNat < UInt64.size
  · rw [checkedSum_eq_pure h]
    exact .pure (a + b)
  · rw [checkedSum_eq_throw h]
    exact fun s => .inr ⟨.overflow, rfl⟩

end ScriptGate
