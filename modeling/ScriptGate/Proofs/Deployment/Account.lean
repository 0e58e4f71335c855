/-
  ScriptGate.Proofs.Deployment.Account — the account of a run: its calls, its rows and its end.

  A database answers the statements of a script one after the other, and an answer may depend on
  every call before it.  The replies are taken down in order.  The first one that is a fault ends
  the run: no call is made behind it, and what is applied are the statements in front of it, with
  the rows that they were answered with.  The counters wrap, as words of sixty-four bits do.
  Main statements:
    - `callOf_eq_counted_iff` — the statements whose rows are counted, by their opening words;
    - `runAll_noted`          — a run calls the database for its statements up to the first that
                                fails;
    - `runAll_gains`          — it applies the statements in front of that, and ends with it;
    - `run_accounted`         — the account of the run of a script.
-/
import ScriptGate.Proofs.Deployment.Watch
import ScriptGate.Proofs.Text.Capital

namespace ScriptGate.Deployment

open ScriptGate.Script ScriptGate.Statement ScriptGate.Text

/-! ## §1. Counted statements -/

/-- A statement is of a counted kind if it opens with the word of that kind, in letters of any
    case. -/
theorem kindOf_eq_iff (statement : List Char) :
    (kindOf statement = .insert ↔ leadingKeyword statement = "INSERT".toList) ∧
      (kindOf statement = .update ↔ leadingKeyword statement = "UPDATE".toList) ∧
      (kindOf statement = .delete ↔ leadingKeyword statement = "DELETE".toList) := by
  unfold kindOf
  simp only [Kind.ofText_eq_iff, keywordOf_upper_eq_iff, and_self]

/-- **The statements whose rows are counted** are those that open with INSERT, UPDATE or DELETE;
    any other one is only executed. -/
theorem callOf_eq_counted_iff (statement : List Char) :
    callOf statement = .counted statement ↔
      leadingKeyword statement ∈ ["INSERT", "UPDATE", "DELETE"].map String.toList := by
  have hword : (kindOf statement).isDml = true ↔
      leadingKeyword statement ∈ ["INSERT", "UPDATE", "DELETE"].map String.toList := by
    unfold kindOf
    simp only [Kind.isDml_ofText, List.mem_cons, List.not_mem_nil, or_false, List.map_cons,
      List.map_nil, keywordOf_upper_eq_iff]
  rw [← hword]
  unfold callOf
  by_cases h : (kindOf statement).isDml = true
  · rw [if_pos h]
    exact iff_of_true rfl h
  · rw [if_neg h]
    exact iff_of_false nofun h

/-! ## §2. Replies -/

/-- The rows that an answer tells of: none unless the statement was counted. -/
def rowsTold : (call : Database.Call) → call.Answer → UInt64
  | .counted _, rows => rows
  | .execute _, _ | .columns _, _ | .query .., _ => 0

/-- What a call comes to: its rows, or why it failed, and the state behind it. -/
def answerTo (db : Database σ) (call : Database.Call) (s : σ) : Except Fault UInt64 × σ :=
  ((db.ask call s).1.map (rowsTold call), (db.ask call s).2)

/-- What the database made of a statement. -/
structure Reply where
  /-- the statement -/
  statement : List Char
  /-- the rows that it touched, or why it failed -/
  answer : Except Fault UInt64

/-- Did the statement fail? -/
def Reply.failed (r : Reply) : Bool := !r.answer.isOk

/-- The rows that the statement touched. -/
def Reply.rows (r : Reply) : Nat :=
  match r.answer with
  | .ok rows => rows.toNat
  | .error _ => 0

/-- The replies to statements that are put to the database one after the other, each in the state
    that the one before it left behind. -/
def replies (db : Database σ) : List (List Char) → σ → List Reply
  | [], _ => []
  | statement :: rest, s =>
    ⟨statement, (answerTo db (callOf statement) s).1⟩ ::
      replies db rest (answerTo db (callOf statement) s).2

/-- The rows that the statements of a kind touched, all in all. -/
def rowsOf (kind : Kind) : List Reply → Nat
  | [] => 0
  | r :: given => (if kindOf r.statement = kind then r.rows else 0) + rowsOf kind given

/-- The place of the first reply that is a fault, or behind the last one. -/
def firstFailure (given : List Reply) : Nat := given.findIdx Reply.failed

theorem firstFailure_error {r : Reply} {fault : Fault} (h : r.answer = .error fault)
    (given : List Reply) : firstFailure (r :: given) = 0 := by
  have hfailed : r.failed = true := by
    unfold Reply.failed
    rw [h]
    rfl
  unfold firstFailure
  rw [List.findIdx_cons, hfailed, cond_true]

theorem firstFailure_ok {r : Reply} {rows : UInt64} (h : r.answer = .ok rows)
    (given : List Reply) : firstFailure (r :: given) = firstFailure given + 1 := by
  have hfailed : r.failed = false := by
    unfold Reply.failed
    rw [h]
    rfl
  unfold firstFailure
  rw [List.findIdx_cons, hfailed, cond_false]

theorem statement_replies (db : Database σ) (statements : List (List Char)) :
    ∀ s : σ, (replies db statements s).map Reply.statement = statements := by
  induction statements with
  | nil => intro s; rfl
  | cons statement rest ih =>
    intro s
    show statement :: (replies db rest _).map Reply.statement = _
    rw [ih]

theorem length_replies (db : Database σ) (statements : List (List Char)) (s : σ) :
    (replies db statements s).length = statements.length := by
  have h := congrArg List.length (statement_replies db statements s)
  rwa [List.length_map] at h

/-- One statement is one call, and comes to what the call comes to. -/
theorem runStatement_eq (db : Database σ) (statement : List Char) (s : σ) :
    runStatement db statement s = answerTo db (callOf statement) s := by
  unfold runStatement callOf
  by_cases h : (kindOf statement).isDml = true
  · rw [if_pos h, if_pos h]
    -- the rows of a counted statement are handed on as they are
    show db.ask (.counted statement) s = answerTo db (.counted statement) s
    unfold answerTo
    rcases db.ask (.counted statement) s with ⟨_ | rows, s'⟩ <;> rfl
  · rw [if_neg h, if_neg h]
    rfl

/-! ## §3. The calls of a run -/

/-- **A run calls the database for its statements up to the first that fails**, once each and in
    order.  A database that notes its calls and answers as before shows them, and noting them
    changes nothing else. -/
theorem runAll_noted {db : Database σ} {noted : Database (σ × ρ)}
    {note : ρ → Database.Call → ρ}
    (h : ∀ call s notes,
      noted.ask call (s, notes) = ((db.ask call s).1, ((db.ask call s).2, note notes call)))
    (statements : List (List Char)) :
    ∀ (done : Impact) (s : σ) (notes : ρ),
      runAll noted done statements (s, notes) =
        ((runAll db done statements s).1, ((runAll db done statements s).2,
          ((statements.take (firstFailure (replies db statements s) + 1)).map callOf).foldl
            note notes)) := by
  have hanswer : ∀ call s notes, answerTo noted call (s, notes)
      = ((answerTo db call s).1, ((answerTo db call s).2, note notes call)) := by
    intro call s notes
    unfold answerTo
    rw [h]
  induction statements with
  | nil => intro done s notes; rfl
  | cons statement rest ih =>
    intro done s notes
    rw [runAll_cons, runAll_cons, runStatement_eq, runStatement_eq, hanswer, replies]
    rcases answerTo db (callOf statement) s with ⟨fault | rows, s'⟩
    · -- the run is over, and so is the list of its calls
      rw [firstFailure_error rfl]
      rfl
    · dsimp only
      rw [ih, firstFailure_ok rfl, List.take_succ_cons, List.map_cons, List.foldl_cons]

/-- The log of a run holds its calls, the last one first. -/
theorem runAll_logged (db : Database σ) (statements : List (List Char)) (done : Impact) (s : σ)
    (log : List Database.Call) :
    runAll db.logged done statements (s, log) =
      ((runAll db done statements s).1, ((runAll db done statements s).2,
        ((statements.take (firstFailure (replies db statements s) + 1)).map callOf).reverse
          ++ log)) := by
  have hnoted : ∀ call s log, db.logged.ask call (s, log)
      = ((db.ask call s).1, ((db.ask call s).2, call :: log)) := fun _ _ _ => rfl
  rw [runAll_noted hnoted, List.foldl_flip_cons_eq_append']

/-! ## §4. What a run applies -/

/-- The counter of a kind. -/
def Impact.counter (i : Impact) : Kind → UInt64
  | .insert => i.inserted
  | .update => i.updated
  | .delete => i.deleted
  | _ => 0

/-- A statement that ran counts for its own kind. -/
theorem counter_record (i : Impact) (ran : Kind) (rows : UInt64) (statement : List Char)
    {kind : Kind} (h : kind.isDml = true) :
    (i.record ran rows statement).counter kind
      = i.counter kind + if ran = kind then rows else 0 := by
  cases kind with
  | insert | update | delete =>
    cases ran with
    | insert | update | delete => first | rfl | exact (UInt64.add_zero _).symm
    | _ => exact (UInt64.add_zero _).symm
  | _ => exact Bool.noConfusion h

/-- `applied` is `done` with the statements of these replies on top. -/
structure Gains (done : Impact) (given : List Reply) (applied : Impact) : Prop where
  executed : applied.executed = done.executed ++ given.map Reply.statement
  counter : ∀ kind : Kind, kind.isDml = true →
    (applied.counter kind).toNat = ((done.counter kind).toNat + rowsOf kind given) % UInt64.size

theorem Gains.nil (done : Impact) : Gains done [] done := by
  refine ⟨(List.append_nil _).symm, ?_⟩
  intro kind _
  have hlt := (done.counter kind).toNat_lt
  show _ = ((done.counter kind).toNat + 0) % UInt64.size
  unfold UInt64.size
  omega

theorem Gains.cons {done applied : Impact} {r : Reply} {given : List Reply} {rows : UInt64}
    (hr : r.answer = .ok rows)
    (h : Gains (done.record (kindOf r.statement) rows r.statement) given applied) :
    Gains done (r :: given) applied := by
  have hrows : r.rows = rows.toNat := by
    unfold Reply.rows
    rw [hr]
  refine ⟨?_, ?_⟩
  · rw [h.executed, executed_record, List.append_assoc]
    rfl
  · intro kind hkind
    rw [h.counter kind hkind, counter_record _ _ _ _ hkind, UInt64.toNat_add, rowsOf, hrows]
    unfold UInt64.size
    -- the sum wraps at every statement, or once at the end: it is the same
    by_cases hsame : kindOf r.statement = kind
    · rw [if_pos hsame, if_pos hsame]
      omega
    · rw [if_neg hsame, if_neg hsame]
      rw [UInt64.toNat_zero]
      omega

/-- **A run applies the statements in front of the first that fails, and ends with it.** -/
theorem runAll_gains (db : Database σ) (statements : List (List Char)) :
    ∀ (done : Impact) (s : σ), ∃ applied,
      Gains done ((replies db statements s).take (firstFailure (replies db statements s)))
        applied ∧
      ((firstFailure (replies db statements s) = statements.length ∧
          (runAll db done statements s).1 = .ok applied) ∨
        ∃ statement fault,
          (replies db statements s)[firstFailure (replies db statements s)]?
            = some ⟨statement, .error fault⟩ ∧
          (runAll db done statements s).1 = .error ⟨applied, statement, fault.detail⟩) := by
  induction statements with
  | nil =>
    intro done s
    exact ⟨done, .nil done, .inl ⟨rfl, rfl⟩⟩
  | cons statement rest ih =>
    intro done s
    rw [runAll_cons, runStatement_eq, replies]
    rcases answerTo db (callOf statement) s with ⟨fault | rows, s'⟩
    · rw [firstFailure_error rfl]
      exact ⟨done, .nil done, .inr ⟨statement, fault, rfl, rfl⟩⟩
    · obtain ⟨applied, hgains, hends⟩ := ih (done.record (kindOf statement) rows statement) s'
      rw [firstFailure_ok rfl]
      refine ⟨applied, Gains.cons rfl hgains, ?_⟩
      -- the rest ends as it would by itself, one statement further on
      rcases hends with ⟨hk, hok⟩ | ⟨failing, fault, hk, herror⟩
      · exact .inl ⟨congrArg (· + 1) hk, hok⟩
      · exact .inr ⟨failing, fault, hk, herror⟩

/-- A script that runs to its end has run all its statements. -/
theorem executed_run {db : Database σ} {script : List Char} {s : σ} {impact : Impact}
    (h : (run db script s).1 = .ok impact) : impact.executed = fragments script := by
  obtain ⟨applied, hgains, hends⟩ := runAll_gains db (fragments script) .none s
  rw [show (runAll db .none (fragments script) s).1 = .ok impact from h] at hends
  rcases hends with ⟨hk, hok⟩ | ⟨_, _, _, herror⟩
  · injection hok with happlied
    rw [happlied, hgains.executed, hk, List.map_take, statement_replies, List.take_length]
    rfl
  · cases herror

/-! ## §5. The account -/

/-- **The account of a run.**  `k` is the place of the first statement that fails, or behind the
    last one.  The database is called for the statements up to that place and for no other; what
    is applied are those in front of it, with the rows that were told for them; and the run ends
    with all of it applied, or with the failure and what it left behind. -/
theorem run_accounted (db : Database σ) (script : List Char) (s : σ) :
    let statements := fragments script
    let given := replies db statements s
    let k := firstFailure given
    let r := run db.logged script (s, [])
    (r.1, r.2.1) = run db script s ∧
    r.2.2.reverse = (statements.take (k + 1)).map callOf ∧
    ∃ applied : Impact, applied.executed = statements.take k ∧
      applied.inserted.toNat = rowsOf .insert (given.take k) % UInt64.size ∧
      applied.updated.toNat = rowsOf .update (given.take k) % UInt64.size ∧
      applied.deleted.toNat = rowsOf .delete (given.take k) % UInt64.size ∧
      ((k = statements.length ∧ applied.executed = statements ∧ r.1 = .ok applied) ∨
        ∃ failure fault, r.1 = .error failure ∧ failure.applied = applied ∧
          statements[k]? = some failure.statement ∧
          given[k]? = some ⟨failure.statement, .error fault⟩ ∧ failure.cause = fault.detail ∧
          (failure.isPartial = true ↔ 0 < k)) := by
  intro statements given k r
  have hlogged := runAll_logged db statements .none s []
  have hr : r = runAll db.logged .none statements (s, []) := rfl
  obtain ⟨applied, hgains, hends⟩ := runAll_gains db statements .none s
  have hexecuted : applied.executed = statements.take k := by
    rw [hgains.executed, List.map_take, statement_replies]
    rfl
  -- the counters of an empty impact are zero, so they hold the rows of this run
  have hcounter : ∀ kind : Kind, kind.isDml = true →
      (applied.counter kind).toNat = rowsOf kind (given.take k) % UInt64.size := by
    intro kind hkind
    have hnone : (Impact.none.counter kind).toNat = 0 := by cases kind <;> rfl
    rw [hgains.counter kind hkind, hnone, Nat.zero_add]
  refine ⟨?_, ?_, applied, hexecuted, hcounter .insert rfl, hcounter .update rfl,
    hcounter .delete rfl, ?_⟩
  · rw [hr, hlogged]
    rfl
  · rw [hr, hlogged, List.append_nil, List.reverse_reverse]
  · rw [hr, hlogged]
    rcases hends with ⟨hk, hok⟩ | ⟨statement, fault, hk, herror⟩
    · refine .inl ⟨hk, ?_, hok⟩
      rw [hexecuted, show k = statements.length from hk, List.take_length]
    · refine .inr ⟨⟨applied, statement, fault.detail⟩, fault, herror, rfl, ?_, hk, rfl, ?_⟩
      · have hstatement := congrArg (Option.map Reply.statement) hk
        rw [← List.getElem?_map, statement_replies] at hstatement
        exact hstatement
      · -- something is applied if the failure is not that of the first statement
        have hlt : k < statements.length := by
          have := (List.getElem?_eq_some_iff.1 hk).1
          rwa [length_replies] at this
        show (!applied.executed.isEmpty) = true ↔ 0 < k
        rw [hexecuted, Bool.not_eq_true', List.isEmpty_eq_false_iff, ne_eq, List.take_eq_nil_iff]
        have hne : statements ≠ [] := List.ne_nil_of_length_pos (by omega)
        simp only [hne, or_false]
        omega

end ScriptGate.Deployment
