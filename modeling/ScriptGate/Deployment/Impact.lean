/-
  ScriptGate.Deployment.Impact — running a script and counting the rows that it touches.

  Statements run one by one and each is committed for itself, so a script that fails half-way
  leaves its first statements applied.  The counters are words of sixty-four bits.  How they are
  added depends on the build, and is a parameter: `runWith checkedSum` is a run in a build that
  checks its sums and panics where one does not fit, `run` one in a build for release, where it
  starts over.
  Main statements:
    - `runAll_cons`     — how the run of one statement goes on with those behind it;
    - `follows_runWith` — a run with checked sums does what the other one does, or panics.
-/
import ScriptGate.Build
import ScriptGate.Database.Call
import ScriptGate.Script.Scan
import ScriptGate.Statement.Kind

namespace ScriptGate.Deployment

open ScriptGate.Text ScriptGate.Script ScriptGate.Statement

/-! ## §1. Impact -/

/-- What statements did to the rows. -/
structure Impact where
  /-- rows added -/
  inserted : UInt64
  /-- rows changed -/
  updated : UInt64
  /-- rows removed -/
  deleted : UInt64
  /-- the statements that ran, in order -/
  executed : List (List Char)
deriving DecidableEq, Repr

namespace Impact

/-- Nothing ran yet. -/
def none : Impact := ⟨0, 0, 0, []⟩

/-- The counters on a line. -/
def line (i : Impact) : String :=
  s!"INSERT: {i.inserted.toNat}, UPDATE: {i.updated.toNat}, DELETE: {i.deleted.toNat}"

section

variable {m : Type → Type} [Monad m] (plus : Addition m)

/-- All rows touched. -/
def totalWith (i : Impact) : m UInt64 := do plus (← plus i.inserted i.updated) i.deleted

/-- Counts the rows of a statement of this kind. -/
def countWith (i : Impact) (rows : UInt64) : Kind → m Impact
  | .insert => return { i with inserted := ← plus i.inserted rows }
  | .update => return { i with updated := ← plus i.updated rows }
  | .delete => return { i with deleted := ← plus i.deleted rows }
  | _ => return i

/-- Takes down that a statement of this kind ran and touched these rows. -/
def recordWith (i : Impact) (kind : Kind) (rows : UInt64) (statement : List Char) : m Impact := do
  return { ← i.countWith plus rows kind with executed := i.executed ++ [statement] }

end

/-- All rows touched, where sums start over. -/
def total (i : Impact) : UInt64 := Id.run (i.totalWith wrappingSum)

/-- Takes a statement down where sums start over. -/
def record (i : Impact) (kind : Kind) (rows : UInt64) (statement : List Char) : Impact :=
  Id.run (i.recordWith wrappingSum kind rows statement)

/-- Where sums start over, nothing but the statement is taken down. -/
theorem recordWith_wrappingSum (i : Impact) (kind : Kind) (rows : UInt64) (statement : List Char) :
    i.recordWith (m := StateM σ) wrappingSum kind rows statement
      = pure (i.record kind rows statement) := by
  cases kind <;> rfl

end Impact

/-! ## §2. Runs -/

/-- A statement failed. -/
structure Failure where
  /-- what ran before it -/
  applied : Impact
  /-- the statement -/
  statement : List Char
  /-- why it failed -/
  cause : String
deriving DecidableEq, Repr

/-- Did something run before the failure? -/
def Failure.isPartial (f : Failure) : Bool := !f.applied.executed.isEmpty

/-- The kind of a statement as it is written. -/
def kindOf (statement : List Char) : Kind := .ofText (upper statement)

/-- Runs one statement; the rows of a statement that is not counted are none. -/
def runStatement (db : Database σ) (statement : List Char) : StateM σ (Except Fault UInt64) := do
  if (kindOf statement).isDml then db.counted statement
  else return (← db.execute statement).map fun () => 0

section

variable {m : Type → Type} [Monad m] [MonadLiftT (StateM σ) m] (plus : Addition m)

/-- Runs statements in order, up to the first that fails. -/
def runAllWith (db : Database σ) (done : Impact) : List (List Char) → m (Except Failure Impact)
  | [] => return .ok done
  | statement :: rest => do
    match ← (runStatement db statement : StateM σ _) with
    | .ok rows =>
      runAllWith db (← done.recordWith plus (kindOf statement) rows statement) rest
    | .error fault => return .error ⟨done, statement, fault.detail⟩

/-- Runs a script. -/
def runWith (db : Database σ) (script : List Char) : m (Except Failure Impact) :=
  runAllWith plus db .none (fragments script)

end

/-- Runs statements where sums start over. -/
def runAll (db : Database σ) (done : Impact) (statements : List (List Char)) :
    StateM σ (Except Failure Impact) :=
  runAllWith wrappingSum db done statements

/-- Runs a script where sums start over. -/
def run (db : Database σ) (script : List Char) : StateM σ (Except Failure Impact) :=
  runWith wrappingSum db script

/-! ## §3. Laws -/

/-- A script is run statement by statement. -/
theorem run_eq (db : Database σ) (script : List Char) :
    run db script = runAll db .none (fragments script) := rfl

/-- A run, written out where sums start over. -/
theorem runAll_def (db : Database σ) (done : Impact) (statement : List Char)
    (rest : List (List Char)) :
    runAll db done (statement :: rest) = (do
      match ← runStatement db statement with
      | .ok rows => runAll db (done.record (kindOf statement) rows statement) rest
      | .error fault => return .error ⟨done, statement, fault.detail⟩) := by
  have hlift : (liftM (runStatement db statement) : StateM σ _) = runStatement db statement := rfl
  unfold runAll
  rw [runAllWith, hlift]
  refine congrArg (runStatement db statement >>= ·) (funext fun answer => ?_)
  cases answer with
  | error fault => rfl
  | ok rows =>
    dsimp only
    rw [Impact.recordWith_wrappingSum]
    rfl

/-- How a run goes on behind its first statement. -/
theorem runAll_cons (db : Database σ) (done : Impact) (statement : List Char)
    (rest : List (List Char)) (s : σ) :
    runAll db done (statement :: rest) s =
      match runStatement db statement s with
      | (.ok rows, s) => runAll db (done.record (kindOf statement) rows statement) rest s
      | (.error fault, s) => (.error ⟨done, statement, fault.detail⟩, s) := by
  simp only [runAll_def, bind, StateT.bind]
  rcases runStatement db statement s with ⟨_ | _, s⟩ <;> rfl

/-- A statement is taken down with a checked sum as it is without one, or there is a panic. -/
theorem follows_recordWith (i : Impact) (kind : Kind) (rows : UInt64) (statement : List Char) :
    Follows (σ := σ) (i.recordWith checkedSum kind rows statement)
      (i.recordWith wrappingSum kind rows statement) := by
  refine Follows.bind ?_ fun _ => .pure _
  cases kind with
  | insert | update | delete => exact (follows_checkedSum _ rows).bind fun _ => .pure _
  | _ => exact .pure i

/-- **A run with checked sums does what the other one does, or panics.** -/
theorem follows_runAllWith (db : Database σ) (statements : List (List Char)) :
    ∀ done : Impact, Follows (runAllWith checkedSum db done statements)
      (runAll db done statements) := by
  induction statements with
  | nil => exact fun done => .pure _
  | cons statement rest ih =>
    intro done
    refine (Follows.lift (runStatement db statement)).bind fun answer => ?_
    cases answer with
    | error fault => exact .pure _
    | ok rows => exact (follows_recordWith done _ rows statement).bind ih

theorem follows_runWith (db : Database σ) (script : List Char) :
    Follows (runWith checkedSum db script) (run db script) :=
  follows_runAllWith db (fragments script) .none

end ScriptGate.Deployment
