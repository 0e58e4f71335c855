/-
  ScriptGate.Proofs.Backup.Calls — the calls that are made of a database up to the first that fails.

  Statements are put to the database one after the other, and the first that fails ends the row.
  Which calls have been made by then, and in which state the database is left, is a relation: a
  course of the calls.  The log of a database holds the calls of the course and changes nothing.
  Main statements:
    - `Course.eq_none_iff`   — calls end without a fault exactly if all of them succeed;
    - `Course.exists_append` — the calls that are made are the first of those to be made;
    - `executeAll_course`    — statements are run up to the first that fails.
-/
import ScriptGate.Backup.Copy

namespace ScriptGate.Database

variable {σ : Type} {db : Database σ}

/-! ## §1. Calls up to the first that fails -/

/-- These calls succeed, one after the other, and lead from one state to another. -/
inductive Succeed (db : Database σ) : List Call → σ → σ → Prop where
  | nil (s : σ) : Succeed db [] s s
  | cons {call : Call} {rest : List Call} {s s₁ s₂ : σ} {answer : call.Answer} :
      db.ask call s = (.ok answer, s₁) → Succeed db rest s₁ s₂ → Succeed db (call :: rest) s s₂

/-- How calls go that are made up to the first that fails: which of them are made, the fault that
    they end with if there is one, and the state behind them. -/
inductive Course (db : Database σ) (todo : List Call) (s : σ) :
    List Call → Option Fault → σ → Prop where
  /-- none of them fails -/
  | through {s' : σ} : db.Succeed todo s s' → Course db todo s todo none s'
  /-- one of them fails, and those in front of it do not -/
  | broken {before behind : List Call} {call : Call} {s₁ s₂ : σ} {fault : Fault} :
      todo = before ++ call :: behind → db.Succeed before s s₁ →
      db.ask call s₁ = (.error fault, s₂) → Course db todo s (before ++ [call]) (some fault) s₂

/-- Calls that succeed go on from the state in which those in front of them end. -/
theorem Succeed.behind {before behind : List Call} {s s₁ s' : σ}
    (h : db.Succeed (before ++ behind) s s') (hbefore : db.Succeed before s s₁) :
    db.Succeed behind s₁ s' := by
  induction hbefore with
  | nil s => exact h
  | cons hask _ ih =>
    cases h with
    | cons hask' hrest =>
      -- a call has one answer only
      rw [hask] at hask'
      cases hask'
      exact ih hrest

/-- Calls end without a fault exactly if all of them succeed. -/
theorem Course.eq_none_iff {todo made : List Call} {ending : Option Fault} {s s' : σ}
    (h : db.Course todo s made ending s') : ending = none ↔ ∃ t, db.Succeed todo s t := by
  cases h with
  | through hall => exact iff_of_true rfl ⟨s', hall⟩
  | broken hsplit hbefore hfails =>
    refine iff_of_false (Option.some_ne_none _) ?_
    rintro ⟨t, hall⟩
    rw [hsplit] at hall
    cases hall.behind hbefore with
    | cons hask _ =>
      rw [hfails] at hask
      cases hask

/-- A call that succeeds goes in front of the others. -/
theorem Course.cons {call : Call} {todo made : List Call} {ending : Option Fault} {s s₁ s' : σ}
    {answer : call.Answer} (hask : db.ask call s = (.ok answer, s₁))
    (h : db.Course todo s₁ made ending s') :
    db.Course (call :: todo) s (call :: made) ending s' := by
  cases h with
  | through hall => exact .through (.cons hask hall)
  | broken hsplit hbefore hfails =>
    exact .broken (congrArg (call :: ·) hsplit) (.cons hask hbefore) hfails

/-- The calls that are made are the first of those that are to be made, and all of them if there is
    no fault. -/
theorem Course.exists_append {todo made : List Call} {ending : Option Fault} {s s' : σ}
    (h : db.Course todo s made ending s') :
    ∃ unmade, todo = made ++ unmade ∧ (ending = none → unmade = []) := by
  cases h with
  | through hall => exact ⟨[], (List.append_nil todo).symm, fun _ => rfl⟩
  | broken hsplit hbefore hfails =>
    exact ⟨_, hsplit.trans (List.append_cons ..), fun h => nomatch h⟩

end ScriptGate.Database

namespace ScriptGate.Backup

/-! ## §2. Statements up to the first that fails -/

/-- How statements go on behind the first one. -/
theorem executeAll_cons (db : Database σ) (statement : List Char) (rest : List (List Char))
    (s : σ) :
    executeAll db (statement :: rest) s =
      match db.ask (.execute statement) s with
      | (.error fault, s) => (.error fault, s)
      | (.ok _, s) => executeAll db rest s := by
  simp only [executeAll, Database.execute, bind, StateT.bind]
  rcases db.ask (.execute statement) s with ⟨_ | _, s'⟩ <;> rfl

/-- **Statements are run up to the first that fails**, and a log of the calls changes nothing. -/
theorem executeAll_course (db : Database σ) (statements : List (List Char)) :
    ∀ (s : σ) (log : List Database.Call), ∃ made ending s',
      db.Course (statements.map Database.Call.execute) s made ending s' ∧
      executeAll db statements s = (ending.elim (.ok ()) .error, s') ∧
      executeAll db.logged statements (s, log)
        = (ending.elim (.ok ()) .error, (s', made.reverse ++ log)) := by
  induction statements with
  | nil => exact fun s log => ⟨[], none, s, .through (.nil s), rfl, rfl⟩
  | cons statement rest ih =>
    intro s log
    have hlogged : db.logged.ask (.execute statement) (s, log)
        = ((db.ask (.execute statement) s).1,
          ((db.ask (.execute statement) s).2, .execute statement :: log)) := rfl
    rw [executeAll_cons, executeAll_cons, hlogged]
    rcases hask : db.ask (.execute statement) s with ⟨fault | answer, s₁⟩
    · exact ⟨[.execute statement], some fault, s₁, .broken rfl (.nil s) hask, rfl, rfl⟩
    · obtain ⟨made, ending, s₂, hcourse, hrun, hlog⟩ := ih s₁ (.execute statement :: log)
      refine ⟨.execute statement :: made, ending, s₂, hcourse.cons hask, hrun, ?_⟩
      dsimp only
      rw [hlog, List.reverse_cons, List.append_assoc]
      rfl

/-- What a copy comes to, by what asking for the tables comes to. -/
theorem copy_eq (db : Database σ) (schema : String) (s : σ) :
    copy db schema s =
      match db.columns schema s with
      | (.error fault, s) => (.error fault, s)
      | (.ok columns, s) =>
        let done := executeAll db (plan schema (tablesOf columns)) s
        ((done.1.mapError copyFault).map fun _ => copySchema schema, done.2) := by
  simp only [copy, bind, StateT.bind]
  rcases db.columns schema s with ⟨_ | _, s'⟩ <;> rfl

end ScriptGate.Backup
