/-
  ScriptGate.Proofs.Deployment.Sequence — two scripts in one.

  A script that leaves nothing open can be joined to another by a semicolon.  What the scan of the
  first one remembers of its literals is of no account behind the semicolon, and neither script
  looks into the other.  The run of the joint script is the run of the first and, unless that fails,
  the run of the second from the state that the first one left behind, on top of what it applied.
  Main statements:
    - `runAll_append` — statements run in two goes;
    - `runAll_above`  — what is applied already stays below what a run applies;
    - `run_semicolon` — the run of two scripts with a semicolon between them.
-/
import ScriptGate.Proofs.Deployment.Ending
import ScriptGate.Proofs.Script.Boundary

namespace ScriptGate.Deployment

open ScriptGate.Script ScriptGate.Statement

/-! ## §1. Impacts on top of each other -/

/-- One impact on top of another: the rows add up and the statements follow. -/
instance : Append Impact where
  append below i := ⟨below.inserted + i.inserted, below.updated + i.updated,
    below.deleted + i.deleted, below.executed ++ i.executed⟩

theorem append_none (below : Impact) : below ++ Impact.none = below := by
  show Impact.mk (below.inserted + 0) (below.updated + 0) (below.deleted + 0)
    (below.executed ++ []) = below
  rw [UInt64.add_zero, UInt64.add_zero, UInt64.add_zero, List.append_nil]

/-- A statement is taken down on top. -/
theorem record_append (below i : Impact) (kind : Kind) (rows : UInt64) (statement : List Char) :
    (below ++ i).record kind rows statement = below ++ i.record kind rows statement := by
  have hexecuted : (below ++ i).executed ++ [statement]
      = below.executed ++ (i.executed ++ [statement]) := List.append_assoc ..
  cases kind with
  | insert => exact congr (congrArg (Impact.mk · _ _) (UInt64.add_assoc ..)) hexecuted
  | update => exact congr (congrArg (Impact.mk _ · _) (UInt64.add_assoc ..)) hexecuted
  | delete => exact congr (congrArg (Impact.mk _ _ ·) (UInt64.add_assoc ..)) hexecuted
  | _ => exact congrArg (Impact.mk _ _ _ ·) hexecuted

/-- What a run comes to above an impact. -/
def above (below : Impact) : Except Failure Impact → Except Failure Impact
  | .ok applied => .ok (below ++ applied)
  | .error failure => .error { failure with applied := below ++ failure.applied }

/-! ## §2. Runs behind each other -/

/-- **What is applied already stays below what a run applies.** -/
theorem runAll_above (db : Database σ) (below : Impact) (statements : List (List Char)) :
    ∀ (i : Impact) (s : σ), runAll db (below ++ i) statements s
      = (above below (runAll db i statements s).1, (runAll db i statements s).2) := by
  induction statements with
  | nil => intro i s; rfl
  | cons statement rest ih =>
    intro i s
    rw [runAll_cons, runAll_cons]
    rcases runStatement db statement s with ⟨fault | rows, s'⟩
    · rfl
    · dsimp only
      rw [record_append, ih]

/-- **Statements run in two goes**, unless one of the first fails. -/
theorem runAll_append (db : Database σ) (front back : List (List Char)) :
    ∀ (done : Impact) (s : σ), runAll db done (front ++ back) s
      = match runAll db done front s with
        | (.ok applied, s) => runAll db applied back s
        | (.error failure, s) => (.error failure, s) := by
  induction front with
  | nil => intro done s; rfl
  | cons statement rest ih =>
    intro done s
    rw [List.cons_append, runAll_cons, runAll_cons]
    rcases runStatement db statement s with ⟨fault | rows, s'⟩
    · rfl
    · exact ih _ s'

/-! ## §3. Scripts behind each other -/

/-- **The run of two scripts with a semicolon between them**, where the first one leaves nothing
    open.  It is over where the run of the first one fails.  Else it goes on with the calls of the
    second one, from the state behind the first, and comes to what both come to: the statements one
    after the other, and the sum of the rows. -/
theorem run_semicolon {a : List Char} (htop : (Scanner.start.run a).mode.isTop = true)
    (b : List Char) (db : Database σ) (s : σ) :
    let first := run db.logged a (s, [])
    let second := run db.logged b (first.2.1, [])
    let whole := run db.logged (a ++ ';' :: b) (s, [])
    fragments (a ++ ';' :: b) = fragments a ++ fragments b ∧
    (∀ failure, first.1 = .error failure → whole = first) ∧
    ∀ done, first.1 = .ok done →
      whole.2.1 = second.2.1 ∧
      whole.2.2.reverse = first.2.2.reverse ++ second.2.2.reverse ∧
      match second.1 with
      | .ok more => whole.1 = .ok (done ++ more)
      | .error failure =>
        whole.1 = .error { failure with applied := done ++ failure.applied } := by
  intro first second whole
  have hfragments := fragments_semicolon htop b
  have hwhole : whole = runAll db.logged .none (fragments a ++ fragments b) (s, []) := by
    rw [← hfragments]
    rfl
  rw [runAll_append, show runAll db.logged .none (fragments a) (s, []) = first from rfl] at hwhole
  refine ⟨hfragments, ?_, ?_⟩
  · intro failure hfailed
    rw [hwhole, ← Prod.eta first, hfailed]
  · intro done hdone
    rw [← Prod.eta first, hdone] at hwhole
    -- the second run does the same on an empty log and above nothing
    have hsecond : second = _ := runAll_logged db (fragments b) .none first.2.1 []
    have hrest : whole = _ :=
      hwhole.trans (runAll_logged db (fragments b) done first.2.1 first.2.2)
    rw [← append_none done, runAll_above] at hrest
    rw [hrest, hsecond]
    refine ⟨rfl, ?_, ?_⟩
    · rw [List.append_nil, List.reverse_append]
    · dsimp only
      cases (runAll db .none (fragments b) first.2.1).1 <;> rfl

/-- The first script has an escape string, in which the backslash shields the quote; in the literal
    of the second one it shields nothing.  The rows of both deletions are told, and that the table
    is not dropped. -/
theorem escapes_forgotten :
    let a := "DELETE FROM t WHERE x = E'\\';'".toList
    let b := "DELETE FROM t WHERE y = '\\'; DROP TABLE t".toList
    (Scanner.start.run a).mode.isTop = true ∧
    (run fragile.database.logged a (0, [])).1 = .ok ⟨0, 0, 3, [a]⟩ ∧
    (run fragile.database.logged (a ++ ';' :: b) (0, [])).1 = .error
      ⟨⟨0, 0, 6, [a, "DELETE FROM t WHERE y = '\\'".toList]⟩, "DROP TABLE t".toList, "denied"⟩ := by
  -- over variables, so that nothing is run to compare two runs
  have hjoined : ∀ {a b : List Char} {done failed : Impact} {statement : List Char},
      (Scanner.start.run a).mode.isTop = true →
      (run fragile.database.logged a (0, [])).1 = .ok done →
      (run fragile.database.logged a (0, [])).2.1 = 1 →
      (run fragile.database.logged b (1, [])).1 = .error ⟨failed, statement, "denied"⟩ →
      (run fragile.database.logged (a ++ ';' :: b) (0, [])).1
        = .error ⟨done ++ failed, statement, "denied"⟩ := by
    intro a b done failed statement htop hdone hone hfailed
    obtain ⟨-, -, hgoes⟩ := run_semicolon htop b fragile.database 0
    obtain ⟨-, -, hends⟩ := hgoes done hdone
    rw [hone, hfailed] at hends
    exact hends
  have htop : (Scanner.start.run "DELETE FROM t WHERE x = E'\\';'".toList).mode.isTop = true := by
    decide +kernel
  have hdone : (run fragile.database.logged "DELETE FROM t WHERE x = E'\\';'".toList (0, [])).1
      = .ok ⟨0, 0, 3, ["DELETE FROM t WHERE x = E'\\';'".toList]⟩ := by
    decide +kernel
  have hfailed : (run fragile.database.logged
      "DELETE FROM t WHERE y = '\\'; DROP TABLE t".toList (1, [])).1 = .error
        ⟨⟨0, 0, 3, ["DELETE FROM t WHERE y = '\\'".toList]⟩, "DROP TABLE t".toList, "denied"⟩ := by
    decide +kernel
  exact ⟨htop, hdone, hjoined htop hdone (by decide +kernel) hfailed⟩

end ScriptGate.Deployment
