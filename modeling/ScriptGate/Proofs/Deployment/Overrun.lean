/-
  ScriptGate.Proofs.Deployment.Overrun — counters that overrun.

  The rows of a run are counted in words of sixty-four bits.  A build that checks its sums panics at
  the first statement whose rows do not fit into the counter of their kind any more: nothing is told
  of the run then, and what was applied stays applied.  In a build for release the counter starts
  over, which shows at that statement: the counter comes out smaller than the rows of the statement
  alone.  At the end of the run it need not show any more, but the counter lacks a full word for
  each time that this happened.  The total may overrun where no counter did.
  Main statements:
    - `toNat_add_overrun`   — an addition that starts over lacks a full word, and shows it;
    - `overruns_eq`         — how often the counter of a kind starts over in a run;
    - `checkedRun_course`   — where a run with checked sums panics, and what it did until then;
    - `counters_exact_iff`  — when the counters of a run are exact, and what comes of it otherwise.
-/
import ScriptGate.Proofs.Deployment.Account

namespace ScriptGate.Deployment

open ScriptGate.Script ScriptGate.Statement

/-! ## §1. Overruns -/

/-- An addition that starts over lacks a full word, and shows it: the sum is smaller than what was
    added. -/
theorem toNat_add_overrun (n rows : UInt64) :
    (n + rows).toNat + UInt64.size * (if n + rows < rows then 1 else 0)
      = n.toNat + rows.toNat := by
  have hn := n.toNat_lt
  have hrows := rows.toNat_lt
  have hsum : (n + rows).toNat = (n.toNat + rows.toNat) % 2 ^ 64 := UInt64.toNat_add n rows
  have hsize : UInt64.size = 2 ^ 64 := rfl
  by_cases hover : n + rows < rows
  · rw [if_pos hover]
    have := UInt64.lt_iff_toNat_lt.1 hover
    omega
  · rw [if_neg hover]
    have := mt UInt64.lt_iff_toNat_lt.2 hover
    omega

/-- The rows that a counter gains by a reply. -/
def Reply.told (r : Reply) : UInt64 :=
  match r.answer with
  | .ok rows => rows
  | .error _ => 0

theorem Reply.toNat_told (r : Reply) : r.told.toNat = r.rows := by
  unfold Reply.told Reply.rows
  cases r.answer <;> rfl

/-- How often the counter of a kind starts over: it comes out smaller than the rows of the one
    statement that it has just counted. -/
def overruns (kind : Kind) : Impact → List Reply → Nat
  | _, [] => 0
  | done, r :: given =>
    let next := done.record (kindOf r.statement) r.told r.statement
    (if kindOf r.statement = kind ∧ next.counter kind < r.told then 1 else 0) +
      overruns kind next given

/-- What one statement does to the counter of a kind. -/
theorem counter_balance (done : Impact) (r : Reply) {kind : Kind} (hkind : kind.isDml = true) :
    let next := done.record (kindOf r.statement) r.told r.statement
    (next.counter kind).toNat +
        UInt64.size * (if kindOf r.statement = kind ∧ next.counter kind < r.told then 1 else 0)
      = (done.counter kind).toNat + if kindOf r.statement = kind then r.rows else 0 := by
  intro next
  have hnext : next.counter kind = _ := counter_record done _ r.told r.statement hkind
  by_cases hsame : kindOf r.statement = kind
  · rw [if_pos hsame] at hnext
    simp only [hsame, true_and, if_true]
    rw [hnext, toNat_add_overrun, r.toNat_told]
  · rw [if_neg hsame, UInt64.add_zero] at hnext
    simp only [hsame, false_and, if_false]
    rw [hnext, Nat.mul_zero]

/-- **How often the counter of a kind starts over**: once for every full word of the rows that it
    is to count. -/
theorem overruns_eq {kind : Kind} (hkind : kind.isDml = true) (given : List Reply) :
    ∀ done : Impact,
      overruns kind done given = ((done.counter kind).toNat + rowsOf kind given) / UInt64.size := by
  have hpos : 0 < UInt64.size := by decide
  induction given with
  | nil =>
    intro done
    exact (Nat.div_eq_of_lt (done.counter kind).toNat_lt).symm
  | cons r rest ih =>
    intro done
    have hstep := counter_balance done r hkind
    dsimp only at hstep
    -- a full word that the counter lacks here is one more of them in the sum
    rw [overruns, rowsOf, ih, ← Nat.add_assoc, ← hstep, Nat.add_right_comm,
      Nat.add_mul_div_left _ _ hpos, Nat.add_comm]

/-! ## §2. What a run leaves behind -/

/-- What is applied when a run is over, also where it failed. -/
def appliedBy : Except Failure Impact → Impact
  | .ok applied => applied
  | .error failure => failure.applied

/-- The replies to the statements that a run applies. -/
def answered (db : Database σ) (script : List Char) (s : σ) : List Reply :=
  (replies db (fragments script) s).take (firstFailure (replies db (fragments script) s))

theorem gains_appliedBy (db : Database σ) (script : List Char) (s : σ) :
    Gains .none (answered db script s) (appliedBy (run db script s).1) := by
  obtain ⟨applied, hgains, hends⟩ := runAll_gains db (fragments script) .none s
  have happlied : appliedBy (run db script s).1 = applied := by
    rcases hends with ⟨-, hok⟩ | ⟨_, _, -, herror⟩
    · exact congrArg appliedBy hok
    · exact congrArg appliedBy herror
  rw [happlied]
  exact hgains

/-- The rows of all counted statements. -/
def allRows (given : List Reply) : Nat :=
  rowsOf .insert given + rowsOf .update given + rowsOf .delete given

theorem rowsOf_le_allRows {kind : Kind} (hkind : kind.isDml = true) (given : List Reply) :
    rowsOf kind given ≤ allRows given := by
  unfold allRows
  cases kind with
  | insert | update | delete => omega
  | _ => exact Bool.noConfusion hkind

/-- A statement touched no more rows than all of its kind. -/
theorem rows_le_rowsOf {r : Reply} {given : List Reply} (h : r ∈ given) :
    r.rows ≤ rowsOf (kindOf r.statement) given := by
  induction given with
  | nil => exact absurd h List.not_mem_nil
  | cons first rest ih =>
    rw [rowsOf]
    rcases List.mem_cons.1 h with rfl | hrest
    · rw [if_pos rfl]
      exact Nat.le_add_right _ _
    · exact Nat.le_trans (ih hrest) (Nat.le_add_left _ _)

theorem rowsOf_take_le (kind : Kind) (given : List Reply) :
    ∀ n, rowsOf kind (given.take n) ≤ rowsOf kind given := by
  induction given with
  | nil => exact fun n => Nat.le_of_eq (congrArg (rowsOf kind) List.take_nil)
  | cons r rest ih =>
    intro n
    cases n with
    | zero => exact Nat.zero_le _
    | succ n => exact Nat.add_le_add_left (ih n) _

/-! ## §3. Exact counters -/

/-- The counters and their total tell the rows that the statements touched. -/
structure CountsExactly (given : List Reply) (applied : Impact) : Prop where
  /-- each counter is the sum of the rows of its kind -/
  counter : ∀ kind : Kind, kind.isDml = true → (applied.counter kind).toNat = rowsOf kind given
  /-- the total is the sum of the three counters -/
  total : applied.total.toNat
    = applied.inserted.toNat + applied.updated.toNat + applied.deleted.toNat
  /-- neither is smaller than the rows of a single statement -/
  single : ∀ r ∈ given, (kindOf r.statement).isDml = true →
    r.rows ≤ (applied.counter (kindOf r.statement)).toNat ∧ r.rows ≤ applied.total.toNat

theorem toNat_total (i : Impact) :
    i.total.toNat = (i.inserted.toNat + i.updated.toNat + i.deleted.toNat) % UInt64.size := by
  show (i.inserted + i.updated + i.deleted).toNat = _
  unfold UInt64.size
  rw [UInt64.toNat_add, UInt64.toNat_add]
  omega

theorem toNat_counter_none (kind : Kind) : (Impact.none.counter kind).toNat = 0 := by
  cases kind <;> rfl

/-- On top of nothing a counter holds the rows of its kind, less full words. -/
theorem Gains.counter_eq {given : List Reply} {applied : Impact} (h : Gains .none given applied)
    (kind : Kind) (hkind : kind.isDml = true) :
    (applied.counter kind).toNat = rowsOf kind given % UInt64.size := by
  rw [h.counter kind hkind, toNat_counter_none, Nat.zero_add]

/-- The total lacks full words, whichever counter or sum of counters it lost them in. -/
theorem Gains.total_eq {given : List Reply} {applied : Impact} (h : Gains .none given applied) :
    applied.total.toNat = allRows given % UInt64.size := by
  have hinserted : applied.inserted.toNat = _ := h.counter_eq .insert rfl
  have hupdated : applied.updated.toNat = _ := h.counter_eq .update rfl
  have hdeleted : applied.deleted.toNat = _ := h.counter_eq .delete rfl
  have hsize : UInt64.size = 2 ^ 64 := rfl
  rw [toNat_total, hinserted, hupdated, hdeleted, allRows, hsize]
  omega

/-- Counters that tell the rows of their kinds add up to all rows. -/
theorem sum_of_counters {given : List Reply} {applied : Impact}
    (h : ∀ kind : Kind, kind.isDml = true → (applied.counter kind).toNat = rowsOf kind given) :
    applied.inserted.toNat + applied.updated.toNat + applied.deleted.toNat = allRows given := by
  have hinserted : applied.inserted.toNat = _ := h .insert rfl
  have hupdated : applied.updated.toNat = _ := h .update rfl
  have hdeleted : applied.deleted.toNat = _ := h .delete rfl
  rw [hinserted, hupdated, hdeleted, allRows]

/-- **The counters are exact as long as all rows together fit into one word.** -/
theorem Gains.countsExactly_iff {given : List Reply} {applied : Impact}
    (h : Gains .none given applied) :
    CountsExactly given applied ↔ allRows given < UInt64.size := by
  constructor
  · intro hexact
    -- the total is a word, and tells all rows
    rw [← sum_of_counters hexact.counter, ← hexact.total]
    exact applied.total.toNat_lt
  · intro hfits
    -- what one counter holds fits where all rows do
    have hcounter : ∀ kind : Kind, kind.isDml = true →
        (applied.counter kind).toNat = rowsOf kind given := by
      intro kind hkind
      rw [h.counter_eq kind hkind]
      exact Nat.mod_eq_of_lt (Nat.lt_of_le_of_lt (rowsOf_le_allRows hkind given) hfits)
    have htotal : applied.total.toNat = allRows given := by
      rw [h.total_eq, Nat.mod_eq_of_lt hfits]
    refine ⟨hcounter, ?_, ?_⟩
    · rw [htotal, sum_of_counters hcounter]
    · intro r hr hkind
      have hrows := rows_le_rowsOf hr
      rw [hcounter _ hkind, htotal]
      exact ⟨hrows, Nat.le_trans hrows (rowsOf_le_allRows hkind given)⟩

/-! ## §4. Checked sums -/

/-- The rows of every kind fit into the counter that they are added to. -/
def Fits (done : Impact) (given : List Reply) : Prop :=
  ∀ kind : Kind, kind.isDml = true → (done.counter kind).toNat + rowsOf kind given < UInt64.size

theorem fits_nil (done : Impact) : Fits done [] := fun kind _ => (done.counter kind).toNat_lt

/-- Rows that are not counted have no counter to fit into. -/
theorem uncounted_fits (done : Impact) {kind : Kind} (h : kind.isDml = false) (rows : UInt64) :
    (done.counter kind).toNat + rows.toNat < UInt64.size := by
  have hzero : (done.counter kind).toNat = 0 := by
    cases kind with
    | insert | update | delete => exact Bool.noConfusion h
    | _ => rfl
  rw [hzero, Nat.zero_add]
  exact rows.toNat_lt

/-- Rows fit one statement after the other. -/
theorem fits_cons (done : Impact) (statement : List Char) (rows : UInt64) (given : List Reply) :
    Fits done (⟨statement, .ok rows⟩ :: given) ↔
      (done.counter (kindOf statement)).toNat + rows.toNat < UInt64.size ∧
        Fits (done.record (kindOf statement) rows statement) given := by
  have hrows : ∀ kind : Kind, rowsOf kind (⟨statement, .ok rows⟩ :: given)
      = (if kindOf statement = kind then rows.toNat else 0) + rowsOf kind given := fun _ => rfl
  -- as long as the rows of the statement fit, its counter gains just these
  have hnext : (done.counter (kindOf statement)).toNat + rows.toNat < UInt64.size →
      ∀ kind : Kind, kind.isDml = true →
        ((done.record (kindOf statement) rows statement).counter kind).toNat + rowsOf kind given
          = (done.counter kind).toNat + rowsOf kind (⟨statement, .ok rows⟩ :: given) := by
    intro hfits kind hkind
    rw [counter_record _ _ _ _ hkind, hrows, ← Nat.add_assoc]
    by_cases hsame : kindOf statement = kind
    · rw [if_pos hsame, if_pos hsame, ← hsame, UInt64.toNat_add, Nat.mod_eq_of_lt hfits]
    · rw [if_neg hsame, if_neg hsame, UInt64.add_zero, Nat.add_zero]
  constructor
  · intro h
    have hfits : (done.counter (kindOf statement)).toNat + rows.toNat < UInt64.size := by
      cases hkind : (kindOf statement).isDml with
      | false => exact uncounted_fits done hkind rows
      | true =>
        have hall := h _ hkind
        rw [hrows, if_pos rfl] at hall
        omega
    exact ⟨hfits, fun kind hkind => by rw [hnext hfits kind hkind]; exact h kind hkind⟩
  · rintro ⟨hfits, h⟩ kind hkind
    rw [← hnext hfits kind hkind]
    exact h kind hkind

/-- A statement is taken down with a checked sum as it is without one if its rows fit, and with a
    panic if they do not. -/
theorem recordWith_checkedSum (done : Impact) (kind : Kind) (rows : UInt64)
    (statement : List Char) :
    done.recordWith (m := Checked σ) checkedSum kind rows statement =
      if (done.counter kind).toNat + rows.toNat < UInt64.size then
        pure (done.record kind rows statement)
      else throw .overflow := by
  by_cases hfits : (done.counter kind).toNat + rows.toNat < UInt64.size
  · rw [if_pos hfits]
    cases kind with
    | insert | update | delete =>
      dsimp only [Impact.counter] at hfits
      simp only [Impact.recordWith, Impact.countWith, checkedSum_eq_pure hfits]
      rfl
    | _ => rfl
  · rw [if_neg hfits]
    cases kind with
    | insert | update | delete =>
      dsimp only [Impact.counter] at hfits
      simp only [Impact.recordWith, Impact.countWith, checkedSum_eq_throw hfits]
      rfl
    | _ => exact absurd (uncounted_fits done rfl rows) hfits

/-- How a run with checked sums goes on behind its first statement. -/
theorem checkedRun_cons (db : Database σ) (done : Impact) (statement : List Char)
    (rest : List (List Char)) (s : σ) :
    (runAllWith checkedSum db done (statement :: rest) : Checked σ _).run s =
      match runStatement db statement s with
      | (.ok rows, s) =>
        if (done.counter (kindOf statement)).toNat + rows.toNat < UInt64.size then
          (runAllWith checkedSum db (done.record (kindOf statement) rows statement) rest :
            Checked σ _).run s
        else (.error .overflow, s)
      | (.error fault, s) => (.ok (.error ⟨done, statement, fault.detail⟩), s) := by
  rw [runAllWith, run_lift_bind]
  rcases runStatement db statement s with ⟨fault | rows, s'⟩
  · rfl
  · dsimp only
    rw [recordWith_checkedSum]
    split <;> rfl

/-- The world behind some calls. -/
def worldBehind (db : Database σ) (calls : List Database.Call) (s : σ) : σ :=
  calls.foldl (fun s call => (db.ask call s).2) s

theorem world_answerTo (db : Database σ) (call : Database.Call) (s : σ) :
    (answerTo db call s).2 = (db.ask call s).2 := rfl

/-- **Where a run with checked sums panics.**  It does what the other one does as long as the rows
    fit.  Otherwise it panics at the first statement whose rows do not, behind the call that told
    them. -/
theorem checkedRun_course (db : Database σ) (statements : List (List Char)) :
    ∀ (done : Impact) (s : σ),
      let given := (replies db statements s).take (firstFailure (replies db statements s))
      let checked := (runAllWith checkedSum db done statements : Checked σ _).run s
      (Fits done given ∧
        checked = (.ok (runAll db done statements s).1, (runAll db done statements s).2)) ∨
      ∃ j < given.length, Fits done (given.take j) ∧ ¬ Fits done (given.take (j + 1)) ∧
        checked = (.error .overflow, worldBehind db ((statements.take (j + 1)).map callOf) s) := by
  induction statements with
  | nil => exact fun done s => .inl ⟨fits_nil done, rfl⟩
  | cons statement rest ih =>
    intro done s
    dsimp only
    rw [runAll_cons, checkedRun_cons, runStatement_eq, replies]
    rcases hanswer : answerTo db (callOf statement) s with ⟨fault | rows, s'⟩
    · rw [firstFailure_error rfl]
      exact .inl ⟨fits_nil done, rfl⟩
    · have hworld : (db.ask (callOf statement) s).2 = s' := by rw [← world_answerTo, hanswer]
      rw [firstFailure_ok rfl, List.take_succ_cons]
      by_cases hfits : (done.counter (kindOf statement)).toNat + rows.toNat < UInt64.size
      · dsimp only
        rw [if_pos hfits]
        rcases ih (done.record (kindOf statement) rows statement) s' with
          ⟨hrest, hsame⟩ | ⟨j, hj, hrest, hover, hpanic⟩
        · exact .inl ⟨(fits_cons done _ _ _).2 ⟨hfits, hrest⟩, hsame⟩
        · refine .inr ⟨j + 1, Nat.succ_lt_succ hj, (fits_cons done _ _ _).2 ⟨hfits, hrest⟩,
            fun h => hover ((fits_cons done _ _ _).1 h).2, ?_⟩
          rw [hpanic, ← hworld]
          rfl
      · -- the rows of this statement are told, and there is no room for them
        refine .inr ⟨0, Nat.succ_pos _, fits_nil done,
          fun h => hfits ((fits_cons done _ _ _).1 h).1, ?_⟩
        dsimp only
        rw [if_neg hfits, ← hworld]
        rfl

/-- A total with checked sums is the total if it fits, and a panic if it does not. -/
theorem totalWith_checkedSum (i : Impact) :
    i.totalWith (m := Except Panic) checkedSum =
      if i.inserted.toNat + i.updated.toNat + i.deleted.toNat < UInt64.size then .ok i.total
      else .error .overflow := by
  unfold Impact.totalWith
  by_cases hfirst : i.inserted.toNat + i.updated.toNat < UInt64.size
  · -- the first sum is exact, so the second one fits if all three do
    have hsum : (i.inserted + i.updated).toNat = i.inserted.toNat + i.updated.toNat := by
      rw [UInt64.toNat_add, Nat.mod_eq_of_lt hfirst]
    rw [checkedSum_eq_pure hfirst, ← hsum, pure_bind]
    rfl
  · rw [checkedSum_eq_throw hfirst, if_neg (by omega)]
    rfl

/-- What a build that checks its sums tells of a run, with the total: nothing where one of them does
    not fit. -/
def toldWithTotal (ran : Except Panic (Except Failure Impact)) :
    Except Panic (Impact × UInt64) := do
  let applied := appliedBy (← ran)
  return (applied, ← applied.totalWith checkedSum)

theorem Gains.counter_of_fits {given : List Reply} {applied : Impact}
    (h : Gains .none given applied) (hfits : Fits .none given) (kind : Kind)
    (hkind : kind.isDml = true) : (applied.counter kind).toNat = rowsOf kind given := by
  have hrows := hfits kind hkind
  rw [toNat_counter_none, Nat.zero_add] at hrows
  rw [h.counter_eq kind hkind, Nat.mod_eq_of_lt hrows]

/-- All rows fit into one word only if those of every kind do. -/
theorem fits_of_allRows {given : List Reply} (h : allRows given < UInt64.size) :
    Fits .none given := by
  intro kind hkind
  rw [toNat_counter_none, Nat.zero_add]
  exact Nat.lt_of_le_of_lt (rowsOf_le_allRows hkind given) h

/-- **What a build that checks its sums tells of a run**: all of it, if all rows together fit into
    one word, and nothing otherwise. -/
theorem toldWithTotal_checkedRun (db : Database σ) (script : List Char) (s : σ) :
    let applied := appliedBy (run db script s).1
    toldWithTotal ((runWith checkedSum db script : Checked σ _).run s).1 =
      if allRows (answered db script s) < UInt64.size then .ok (applied, applied.total)
      else .error .overflow := by
  intro applied
  have hgains : Gains .none (answered db script s) applied := gains_appliedBy db script s
  rcases checkedRun_course db (fragments script) .none s with
    ⟨hfits, hsame⟩ | ⟨j, -, -, hover, hpanic⟩
  · -- the counters are exact, so it is for the total to fit
    have hsum : applied.inserted.toNat + applied.updated.toNat + applied.deleted.toNat
        = allRows (answered db script s) := sum_of_counters (hgains.counter_of_fits hfits)
    have htold : toldWithTotal ((runWith checkedSum db script : Checked σ _).run s).1
        = (do return (applied, ← applied.totalWith checkedSum)) := by
      unfold runWith
      rw [hsame]
      rfl
    rw [htold, totalWith_checkedSum, hsum]
    split <;> rfl
  · have hall : ¬ allRows (answered db script s) < UInt64.size := by
      intro h
      -- rows that fit all in all fit up to every statement
      refine hover fun kind hkind => Nat.lt_of_le_of_lt ?_ (fits_of_allRows h kind hkind)
      exact Nat.add_le_add_left (rowsOf_take_le kind _ _) _
    unfold runWith
    rw [hpanic, if_neg hall]
    rfl

/-! ## §5. Both builds -/

/-- **When the counters of a run are exact**, and what comes of it otherwise.  They are, with their
    total, exactly if the rows of all counted statements together fit into one word.

    In a build for release a counter lacks a full word for each statement at which it came out
    smaller than the rows of that statement, so it is exact if there is none; and the total lacks
    full words only.

    In a build that checks its sums the same is told where all rows fit, and nothing where they do
    not.  The run itself ends as in the other build if the rows of each kind fit.  Otherwise it
    panics at the first statement whose rows do not, behind the call that told them: that statement
    and those in front of it are applied, and nothing is told of them. -/
theorem counters_exact_iff (db : Database σ) (script : List Char) (s : σ) :
    let given := answered db script s
    let applied := appliedBy (run db script s).1
    let checked := (runWith checkedSum db script : Checked σ _).run s
    (applied.executed = given.map Reply.statement ∧
      (CountsExactly given applied ↔ allRows given < UInt64.size) ∧
      (∀ kind : Kind, kind.isDml = true →
        (applied.counter kind).toNat + UInt64.size * overruns kind .none given
          = rowsOf kind given ∧
        ((applied.counter kind).toNat = rowsOf kind given ↔ overruns kind .none given = 0)) ∧
      applied.total.toNat = allRows given % UInt64.size) ∧
    (toldWithTotal checked.1 =
      if allRows given < UInt64.size then .ok (applied, applied.total) else .error .overflow) ∧
    (Fits .none given ∧ checked = (.ok (run db script s).1, (run db script s).2) ∨
      ∃ j < given.length, Fits .none (given.take j) ∧ ¬ Fits .none (given.take (j + 1)) ∧
        checked = (.error .overflow,
          worldBehind db (((fragments script).take (j + 1)).map callOf) s)) := by
  intro given applied checked
  have hgains : Gains .none given applied := gains_appliedBy db script s
  refine ⟨⟨hgains.executed, hgains.countsExactly_iff, ?_, hgains.total_eq⟩,
    toldWithTotal_checkedRun db script s, checkedRun_course db (fragments script) .none s⟩
  intro kind hkind
  have hbalance : (applied.counter kind).toNat + UInt64.size * overruns kind .none given
      = rowsOf kind given := by
    rw [overruns_eq hkind, toNat_counter_none, Nat.zero_add, hgains.counter_eq kind hkind,
      Nat.mod_add_div]
  refine ⟨hbalance, ?_⟩
  have hsize : UInt64.size = 2 ^ 64 := rfl
  rw [hsize] at hbalance
  omega

/-- A database in which a counted statement touches half of the rows that fit into a counter. -/
def crowded : Database Unit where
  ask
    | .columns _ => return .ok []
    | .execute _ => return .ok ()
    | .counted _ => return .ok (9223372036854775808 : UInt64)
    | .query .. => return .ok []

/-- Two insertions fill the counter.  In a build for release it starts over, and no rows are told;
    in a build that checks its sums there is a panic. -/
theorem full_counter_starts_over :
    let script := "INSERT INTO t SELECT * FROM a; INSERT INTO t SELECT * FROM b".toList
    let given := answered crowded script ()
    let applied := appliedBy (run crowded script ()).1
    applied = ⟨0, 0, 0,
      ["INSERT INTO t SELECT * FROM a".toList, "INSERT INTO t SELECT * FROM b".toList]⟩ ∧
    rowsOf .insert given = UInt64.size ∧ overruns .insert .none given = 1 ∧
    ¬ CountsExactly given applied ∧
    (runWith checkedSum crowded script : Checked Unit _).run () = (.error .overflow, ()) ∧
    Panic.overflow.message = "attempt to add with overflow" := by
  intro script given applied
  obtain ⟨⟨-, hexact, hcounters, -⟩, -, hcourse⟩ := counters_exact_iff crowded script ()
  have happlied : applied = ⟨0, 0, 0,
      ["INSERT INTO t SELECT * FROM a".toList, "INSERT INTO t SELECT * FROM b".toList]⟩ := by
    decide +kernel
  have hrows : rowsOf .insert given = UInt64.size := by decide +kernel
  refine ⟨happlied, hrows, ?_, ?_, ?_, rfl⟩
  · have hbalance : (applied.counter .insert).toNat +
        UInt64.size * overruns .insert .none given = rowsOf .insert given :=
      (hcounters .insert rfl).1
    have hzero : (applied.counter .insert).toNat = 0 := by
      rw [happlied]
      rfl
    rw [hzero, hrows, Nat.zero_add] at hbalance
    exact Nat.eq_of_mul_eq_mul_left (by decide : 0 < UInt64.size) hbalance
  · intro h
    -- the rows of the insertions alone do not fit into one word
    have hle : rowsOf .insert given ≤ allRows given := rowsOf_le_allRows rfl given
    rw [hrows] at hle
    exact Nat.not_lt.2 hle (hexact.1 h)
  · rcases hcourse with ⟨hfits, -⟩ | ⟨j, -, -, -, hpanic⟩
    · have hlt : 0 + rowsOf .insert given < UInt64.size := hfits .insert rfl
      rw [hrows] at hlt
      exact absurd hlt (by decide)
    · exact hpanic

end ScriptGate.Deployment
