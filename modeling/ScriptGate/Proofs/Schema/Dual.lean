/-
  ScriptGate.Proofs.Schema.Dual — two snapshots compared in the other direction.

  What is new in one direction is gone in the other.  Turning a comparison round lists the same
  changes turned round: new tables become dropped ones and the other way about, each group in the
  order it had, and the columns stay where they were.
  Main statements:
    - `changeAt_swap`     — the change under a key turns round;
    - `perm_changes`      — the changes turn round, one by one;
    - `diff_dual`         — a comparison and the one in the other direction, group by group.
-/
import ScriptGate.Proofs.Schema.Patch

namespace ScriptGate.Schema

open ScriptGate.Collection

/-! ## §1. Changes turned round -/

/-- The change in the other direction. -/
def Change.dual : Change → Change
  | .tableAdded t => .tableRemoved t
  | .tableRemoved t => .tableAdded t
  | .columnAdded c => .columnRemoved c
  | .columnRemoved c => .columnAdded c
  | .columnModified before after => .columnModified after before
  | .unchanged schema => .unchanged schema

/-- The table that a change adds. -/
def Change.addedTable? : Change → Option String
  | .tableAdded t => some t
  | _ => none

/-- The table that a change drops. -/
def Change.removedTable? : Change → Option String
  | .tableRemoved t => some t
  | _ => none

/-- Is the change about a column? -/
def Change.isColumn : Change → Bool
  | .columnAdded _ | .columnRemoved _ | .columnModified .. => true
  | _ => false

/-- The summary of the other direction. -/
def Summary.dual (s : Summary) : Summary :=
  { s with
    tablesAdded := s.tablesRemoved, tablesRemoved := s.tablesAdded
    columnsAdded := s.columnsRemoved, columnsRemoved := s.columnsAdded }

/-- Changes turned round are counted on the other side. -/
theorem Summary.ofChanges_map_dual (found : List Change) :
    Summary.ofChanges (found.map Change.dual) = (Summary.ofChanges found).dual := by
  simp only [Summary.ofChanges, Summary.dual, List.countP_map, Summary.mk.injEq]
  refine ⟨?_, ?_, ?_, ?_, ?_, ?_⟩ <;>
  · refine List.countP_congr ?_
    intro c _
    cases c <;> exact Iff.rfl

/-- The order of changes does not count. -/
theorem Summary.ofChanges_perm {a b : List Change} (h : a.Perm b) :
    Summary.ofChanges a = Summary.ofChanges b := by
  simp only [Summary.ofChanges, Summary.mk.injEq]
  exact ⟨h.countP_eq _, h.countP_eq _, h.countP_eq _, h.countP_eq _, h.countP_eq _,
    h.countP_eq _⟩

/-! ## §2. The changes in the other direction -/

/-- Both directions look at the same keys in the same order. -/
theorem keysOf_swap (before after : Snapshot) : keysOf after before = keysOf before after := by
  have hsets : NameSet.ofNames (after.columns.names ++ before.columns.names)
      = NameSet.ofNames (before.columns.names ++ after.columns.names) := by
    refine NameSet.ext_contains ?_
    intro k
    rw [contains_ofNames, contains_ofNames, List.contains_append, List.contains_append,
      Bool.or_comm]
  unfold keysOf
  rw [hsets]

/-- **The change under a key turns round.** -/
theorem changeAt_swap (before after : Snapshot) (k : String) :
    changeAt after before k = (changeAt before after k).map Change.dual := by
  unfold changeAt columnChange?
  cases before.columns.get? k with
  | none => cases after.columns.get? k <;> rfl
  | some b =>
    cases after.columns.get? k with
    | none => rfl
    | some a =>
      have hsymm : a.sameDefinition b = b.sameDefinition a := Bool.beq_comm
      simp only [hsymm]
      by_cases hsame : b.sameDefinition a = true
      · simp [hsame]
      · simp [hsame, Change.dual]

/-- The changes of columns, in the order of their keys. -/
def columnChanges (before after : Snapshot) : List Change :=
  (keysOf before after).filterMap (changeAt before after)

theorem columnChanges_swap (before after : Snapshot) :
    columnChanges after before = (columnChanges before after).map Change.dual := by
  unfold columnChanges
  rw [keysOf_swap, List.map_filterMap]
  exact congrArg (List.filterMap · _) (funext fun k => changeAt_swap before after k)

theorem isColumn_columnChanges {before after : Snapshot} {c : Change}
    (hc : c ∈ columnChanges before after) : c.isColumn = true := by
  obtain ⟨k, _, hk⟩ := List.mem_filterMap.1 hc
  rcases changeAt_eq_some.1 hk with ⟨_, _, _, rfl⟩ | ⟨_, _, _, rfl⟩ | ⟨_, _, _, _, _, rfl⟩ <;> rfl

/-- What is read off no change of a column is read off none of these. -/
theorem filterMap_columnChanges_eq_nil {before after : Snapshot} {f : Change → Option β}
    (hf : ∀ c, c.isColumn = true → f c = none) :
    (columnChanges before after).filterMap f = [] :=
  List.filterMap_eq_nil_iff.2 fun c hc => hf c (isColumn_columnChanges hc)

/-- **The changes turn round**, one by one. -/
theorem perm_changes (before after : Snapshot) :
    (changes after before).Perm ((changes before after).map Change.dual) := by
  have hcolumns := columnChanges_swap before after
  unfold columnChanges at hcolumns
  rw [changes_eq, changes_eq, hcolumns, List.map_append, List.map_append, List.map_map,
    List.map_map]
  -- new tables and dropped ones change places, and the columns stay behind them
  exact List.perm_append_comm.append_right _

theorem changes_swap_eq_nil (before after : Snapshot) :
    changes after before = [] ↔ changes before after = [] := by
  have hperm := perm_changes before after
  constructor
  · intro h
    rw [h] at hperm
    exact List.map_eq_nil_iff.1 hperm.nil_eq.symm
  · intro h
    rw [h] at hperm
    exact hperm.eq_nil

/-! ## §3. The groups of a comparison -/

/-- What is read off a comparison is read off its groups, if nothing is read off the remark that
    nothing changed. -/
theorem filterMap_diff (f : Change → Option β) (hf : ∀ schema, f (.unchanged schema) = none)
    (before after : Snapshot) :
    (diff before after).filterMap f =
      (onlyIn after.tables before.tables).filterMap (fun t => f (.tableAdded t)) ++
      (onlyIn before.tables after.tables).filterMap (fun t => f (.tableRemoved t)) ++
      (columnChanges before after).filterMap f := by
  have hchanges : (diff before after).filterMap f = (changes before after).filterMap f := by
    rcases diff_cases before after with ⟨hnone, hdiff⟩ | ⟨_, hdiff⟩
    · rw [hdiff, hnone]
      exact List.filterMap_cons_none (hf _)
    · rw [hdiff]
  rw [hchanges, changes_eq, List.filterMap_append, List.filterMap_append, List.filterMap_map,
    List.filterMap_map]
  rfl

/-- A comparison adds the tables that only the second snapshot has. -/
theorem addedTables_diff (before after : Snapshot) :
    (diff before after).filterMap Change.addedTable? = onlyIn after.tables before.tables := by
  have hcolumns : (columnChanges before after).filterMap Change.addedTable? = [] :=
    filterMap_columnChanges_eq_nil fun c h => by cases c <;> first | rfl | exact Bool.noConfusion h
  rw [filterMap_diff _ fun _ => rfl, hcolumns]
  simp [Change.addedTable?]

/-- It drops the tables that only the first snapshot has. -/
theorem removedTables_diff (before after : Snapshot) :
    (diff before after).filterMap Change.removedTable? = onlyIn before.tables after.tables := by
  have hcolumns : (columnChanges before after).filterMap Change.removedTable? = [] :=
    filterMap_columnChanges_eq_nil fun c h => by cases c <;> first | rfl | exact Bool.noConfusion h
  rw [filterMap_diff _ fun _ => rfl, hcolumns]
  simp [Change.removedTable?]

/-- Its entries about columns are the changes of columns. -/
theorem columns_diff (before after : Snapshot) :
    (diff before after).filter Change.isColumn = columnChanges before after := by
  have hcolumns : (columnChanges before after).filter Change.isColumn
      = columnChanges before after :=
    List.filter_eq_self.2 fun c hc => isColumn_columnChanges hc
  have hadded : (onlyIn after.tables before.tables).filterMap
      (fun t => Option.guard Change.isColumn (.tableAdded t)) = [] :=
    List.filterMap_eq_nil_iff.2 fun _ _ => rfl
  have hremoved : (onlyIn before.tables after.tables).filterMap
      (fun t => Option.guard Change.isColumn (.tableRemoved t)) = [] :=
    List.filterMap_eq_nil_iff.2 fun _ _ => rfl
  rw [← List.filterMap_eq_filter] at hcolumns ⊢
  rw [filterMap_diff _ fun _ => rfl, hadded, hremoved, hcolumns]
  rfl

/-- A change of a column keeps its key when it is turned round. -/
theorem path_dual {before after : Snapshot} (hb : before.Keyed) (ha : after.Keyed) {c : Change}
    (hc : c ∈ columnChanges before after) : c.dual.path = c.path := by
  obtain ⟨k, _, hk⟩ := List.mem_filterMap.1 hc
  have hback : changeAt after before k = some c.dual := by
    rw [changeAt_swap, hk]
    rfl
  exact (path_changeAt ha hb hback).1.trans (path_changeAt hb ha hk).1.symm

theorem summary_diff (before after : Snapshot) :
    Summary.ofChanges (diff before after) = Summary.ofChanges (changes before after) := by
  rcases diff_cases before after with ⟨hnone, hdiff⟩ | ⟨_, hdiff⟩
  · rw [hdiff, hnone]
    rfl
  · rw [hdiff]

/-! ## §4. Comparisons -/

/-- **A comparison and the one in the other direction.**  What one adds, the other drops, in the
    same order; the columns turn round where they stand; one says that nothing changed exactly
    when the other does, and then nothing else; and the counters change places. -/
theorem diff_dual (schema capturedAt schema' capturedAt' : String) (rows rows' : List Column) :
    let before := Snapshot.ofRows schema capturedAt rows
    let after := Snapshot.ofRows schema' capturedAt' rows'
    let forward := diff before after
    let backward := diff after before
    backward.filterMap Change.addedTable? = forward.filterMap Change.removedTable? ∧
    backward.filterMap Change.removedTable? = forward.filterMap Change.addedTable? ∧
    backward.filter Change.isColumn = (forward.filter Change.isColumn).map Change.dual ∧
    (backward.filter Change.isColumn).map Change.path
      = (forward.filter Change.isColumn).map Change.path ∧
    ((∃ name, .unchanged name ∈ backward) ↔ ∃ name, .unchanged name ∈ forward) ∧
    (backward = [.unchanged before.schema] ↔ forward = [.unchanged after.schema]) ∧
    Summary.ofChanges backward = (Summary.ofChanges forward).dual := by
  intro before after forward backward
  have hb : before.Keyed := Snapshot.keyed_ofRows schema capturedAt rows
  have ha : after.Keyed := Snapshot.keyed_ofRows schema' capturedAt' rows'
  have hcolumns : backward.filter Change.isColumn
      = (forward.filter Change.isColumn).map Change.dual := by
    rw [columns_diff after before, columns_diff before after]
    exact columnChanges_swap before after
  refine ⟨?_, ?_, hcolumns, ?_, ?_, ?_, ?_⟩
  · rw [addedTables_diff after before, removedTables_diff before after]
  · rw [removedTables_diff after before, addedTables_diff before after]
  · rw [hcolumns, List.map_map, columns_diff before after]
    exact List.map_congr_left fun c hc => path_dual hb ha hc
  · rw [unchanged_mem_diff after before, unchanged_mem_diff before after]
    exact changes_swap_eq_nil before after
  · rw [diff_eq_unchanged_iff after before, diff_eq_unchanged_iff before after]
    exact changes_swap_eq_nil before after
  · calc Summary.ofChanges backward
        = Summary.ofChanges (changes after before) := summary_diff after before
      _ = Summary.ofChanges ((changes before after).map Change.dual) :=
          Summary.ofChanges_perm (perm_changes before after)
      _ = (Summary.ofChanges (changes before after)).dual := Summary.ofChanges_map_dual _
      _ = (Summary.ofChanges forward).dual := by rw [← summary_diff before after]

end ScriptGate.Schema
