/-
  ScriptGate.Schema.Change — what changed between two snapshots.

  Changes come in groups: new tables, dropped tables, then columns in the order of their keys.
  Two snapshots that do not differ are told apart from nothing at all by one entry that says so.
  Main statements:
    - `diff_ne_nil`       — a comparison always says something;
    - `total_eq`          — the total is the sum of the five counters.
-/
import ScriptGate.Schema.Snapshot

namespace ScriptGate.Schema

open ScriptGate.Collection

/-! ## §1. Changes -/

/-- One change. -/
inductive Change where
  | tableAdded (table : String)
  | tableRemoved (table : String)
  | columnAdded (column : Column)
  | columnRemoved (column : Column)
  | columnModified (before after : Column)
  /-- stands alone where nothing changed -/
  | unchanged (schema : String)
deriving DecidableEq, Repr, Inhabited

/-- The direction of a change. -/
inductive Change.Direction where
  | added
  | removed
  | modified
  | unchanged
deriving DecidableEq, Repr

/-- The name of a direction. -/
def Change.Direction.name : Change.Direction → String
  | added => "added"
  | removed => "removed"
  | modified => "modified"
  | unchanged => "unchanged"

namespace Change

/-- The direction of a change. -/
def direction : Change → Direction
  | tableAdded _ | columnAdded _ => .added
  | tableRemoved _ | columnRemoved _ => .removed
  | columnModified .. => .modified
  | unchanged _ => .unchanged

/-- What the change is about: a table, a column by its key, or the schema. -/
def path : Change → String
  | tableAdded t | tableRemoved t => t
  | columnAdded c | columnRemoved c => c.key
  | columnModified _ after => after.key
  | unchanged schema => schema

/-- Can data be lost? -/
def isBreaking (c : Change) : Bool := c.direction == .removed

/-- The change on a line of its own. -/
def line : Change → String
  | tableAdded t => "+ Table created: " ++ t
  | tableRemoved t => "- Table dropped: " ++ t
  | columnAdded c => "+ Column added: " ++ c.describe
  | columnRemoved c => "- Column removed: " ++ c.describe
  | columnModified before after =>
    "~ Column modified: " ++ before.key ++ " (" ++ before.describeDefinition ++ " → " ++
      after.describeDefinition ++ ")"
  | unchanged schema => "No schema changes detected in schema '" ++ schema ++ "'."

/-- Is it a change at all? -/
def isChange : Change → Bool
  | unchanged _ => false
  | _ => true

end Change

/-! ## §2. Comparing snapshots -/

/-- The change of the column under a key, if there is one. -/
def columnChange? (before after : Option Column) : Option Change :=
  match before, after with
  | none, some a => some (.columnAdded a)
  | some b, none => some (.columnRemoved b)
  | some b, some a => if b.sameDefinition a then none else some (.columnModified b a)
  | none, none => none

/-- The names that the first set has and the second has not. -/
def onlyIn (a b : NameSet) : List String := a.names.filter fun n => !b.contains n

/-- The changes from one snapshot to another. -/
def changes (before after : Snapshot) : List Change :=
  (onlyIn after.tables before.tables).map Change.tableAdded ++
  (onlyIn before.tables after.tables).map Change.tableRemoved ++
  (NameSet.ofNames (before.columns.names ++ after.columns.names)).names.filterMap fun k =>
    columnChange? (before.columns.get? k) (after.columns.get? k)

/-- The comparison of two snapshots: their changes, or the remark that there are none. -/
def diff (before after : Snapshot) : List Change :=
  match changes before after with
  | [] => [.unchanged after.schema]
  | found => found

/-! ## §3. Counting changes -/

/-- How many changes there are of each kind. -/
structure Summary where
  tablesAdded : Nat
  tablesRemoved : Nat
  columnsAdded : Nat
  columnsRemoved : Nat
  columnsModified : Nat
  total : Nat
deriving DecidableEq, Repr

/-- The summary of a list of changes. -/
def Summary.ofChanges (found : List Change) : Summary where
  tablesAdded := found.countP fun | .tableAdded _ => true | _ => false
  tablesRemoved := found.countP fun | .tableRemoved _ => true | _ => false
  columnsAdded := found.countP fun | .columnAdded _ => true | _ => false
  columnsRemoved := found.countP fun | .columnRemoved _ => true | _ => false
  columnsModified := found.countP fun | .columnModified .. => true | _ => false
  total := found.countP Change.isChange

/-! ## §4. Laws -/

/-- A comparison always says something. -/
theorem diff_ne_nil (before after : Snapshot) : diff before after ≠ [] := by
  rw [diff]
  split
  case h_1 => exact List.cons_ne_nil _ _
  case h_2 hne => exact hne

/-- The total is the sum of the five counters. -/
theorem Summary.total_eq (found : List Change) :
    (Summary.ofChanges found).total =
      (Summary.ofChanges found).tablesAdded + (Summary.ofChanges found).tablesRemoved +
      (Summary.ofChanges found).columnsAdded + (Summary.ofChanges found).columnsRemoved +
      (Summary.ofChanges found).columnsModified := by
  induction found with
  | nil => rfl
  | cons c rest ih =>
    simp only [Summary.ofChanges] at ih ⊢
    cases c <;> simp only [List.countP_cons, Change.isChange, ih] <;> simp <;> omega

end ScriptGate.Schema
