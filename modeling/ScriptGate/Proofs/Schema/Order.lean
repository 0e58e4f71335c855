/-
  ScriptGate.Proofs.Schema.Order — snapshots and the order of the rows that they are folded from.

  A snapshot keeps the tables of its rows, and under each key the last row that has it.  So two
  lists of rows make the same snapshot exactly when they have the same tables and the same last
  rows, and of the order of the rows no more is left than which of the rows with one key comes
  last.  Where no two rows have one key, every row is the last one with its key, in whatever order
  they come.
  Main statements:
    - `get?_columns_iff_isLast`  — a key holds its last row;
    - `columns_ofRows_eq_iff`    — snapshots have the same columns exactly when their rows have the
                                   same last ones;
    - `isLast_perm`              — rows with different keys have the same last ones in any order;
    - `order_of_rows`            — snapshots of the same rows in two orders do not differ.
-/
import ScriptGate.Proofs.Schema.Key
import ScriptGate.Proofs.Schema.Patch

namespace ScriptGate.Schema.Snapshot

open ScriptGate.Collection

variable {schema schema' capturedAt capturedAt' : String} {rows rows' : List Column}

/-! ## §1. Last rows -/

/-- This row has the key, and no row behind it has. -/
def IsLast (rows : List Column) (k : String) (c : Column) : Prop :=
  ∃ front back, rows = front ++ c :: back ∧ c.key = k ∧ ∀ r ∈ back, r.key ≠ k

/-- The last row with a key is the first one when the rows are read backwards. -/
theorem find?_reverse_iff_isLast (rows : List Column) (k : String) (c : Column) :
    (rows.reverse.find? fun r => r.key == k) = some c ↔ IsLast rows k c := by
  -- what stands in front of the row read backwards stands behind it
  rw [List.find?_eq_some_iff_append]
  constructor
  · intro h
    obtain ⟨hkey, back, front, hrows, hback⟩ := h
    refine ⟨front.reverse, back.reverse, ?_, by simpa using hkey, ?_⟩
    · rw [← List.reverse_reverse rows, hrows]
      simp
    · intro r hr
      simpa using hback r (List.mem_reverse.1 hr)
  · intro h
    obtain ⟨front, back, hrows, hkey, hback⟩ := h
    refine ⟨by simpa using hkey, back.reverse, front.reverse, ?_, ?_⟩
    · rw [hrows]
      simp
    · intro r hr
      simpa using hback r (List.mem_reverse.1 hr)

/-- **A key holds its last row.** -/
theorem get?_columns_iff_isLast (schema capturedAt : String) (rows : List Column) (k : String)
    (c : Column) :
    (ofRows schema capturedAt rows).columns.get? k = some c ↔ IsLast rows k c := by
  rw [get?_columns_ofRows, find?_reverse_iff_isLast]

/-- Among rows with different keys, every row is the last one with its key. -/
theorem isLast_iff_mem (h : (rows.map Column.key).Nodup) (k : String) (c : Column) :
    IsLast rows k c ↔ c ∈ rows ∧ c.key = k := by
  rw [← find?_reverse_iff_isLast, find?_key_iff h]

/-- **Rows with different keys have the same last ones in any order.** -/
theorem isLast_perm (hperm : rows.Perm rows') (h : (rows.map Column.key).Nodup) (k : String)
    (c : Column) : IsLast rows k c ↔ IsLast rows' k c := by
  have h' : (rows'.map Column.key).Nodup := (hperm.map Column.key).nodup_iff.1 h
  rw [isLast_iff_mem h, isLast_iff_mem h', hperm.mem_iff]

/-! ## §2. Snapshots -/

/-- **Snapshots have the same columns exactly when their rows have the same last ones.** -/
theorem columns_ofRows_eq_iff :
    (ofRows schema capturedAt rows).columns = (ofRows schema' capturedAt' rows').columns ↔
      ∀ k c, IsLast rows k c ↔ IsLast rows' k c := by
  constructor
  · intro h k c
    rw [← get?_columns_iff_isLast schema capturedAt, h, get?_columns_iff_isLast]
  · intro h
    refine SortedMap.ext_get? fun k => Option.ext fun c => ?_
    rw [get?_columns_iff_isLast, get?_columns_iff_isLast]
    exact h k c

/-- They have the same tables exactly when the rows have. -/
theorem tables_ofRows_eq_iff :
    (ofRows schema capturedAt rows).tables = (ofRows schema' capturedAt' rows').tables ↔
      ∀ t, (∃ r ∈ rows, r.table = t) ↔ ∃ r ∈ rows', r.table = t := by
  constructor
  · intro h t
    rw [← hasTable_ofRows_iff schema capturedAt, ← hasTable_ofRows_iff schema' capturedAt']
    unfold hasTable
    rw [h]
  · intro h
    refine NameSet.ext_contains fun t => Bool.eq_iff_iff.2 ?_
    show (ofRows schema capturedAt rows).hasTable t = true ↔
      (ofRows schema' capturedAt' rows').hasTable t = true
    rw [hasTable_ofRows_iff, hasTable_ofRows_iff]
    exact h t

/-- Snapshots with the same tables and columns do not differ. -/
theorem diff_of_same {s s' : Snapshot} (hs : s.Keyed) (hs' : s'.Keyed)
    (htables : s.tables = s'.tables) (hcolumns : s.columns = s'.columns) :
    diff s s' = [.unchanged s'.schema] := by
  rw [diff_eq_unchanged_iff, changes_eq_nil_iff hs hs']
  unfold layout
  rw [htables, hcolumns]

/-- **The order of the rows makes no difference.**  Snapshots of the same rows in two orders have
    the same tables, columns and checksum, and a comparison of them in either direction says that
    nothing changed, if no two rows have one key.  In any case a key holds the last row that has
    it, and the tables are those of all rows. -/
theorem order_of_rows (schema capturedAt capturedAt' : String) (rows rows' : List Column) :
    let s := ofRows schema capturedAt rows
    let s' := ofRows schema capturedAt' rows'
    (rows.Perm rows' → (rows.map Column.key).Nodup →
      s.tables = s'.tables ∧ s.columns = s'.columns ∧
      (∀ digest, s.checksum digest = s'.checksum digest) ∧
      diff s s' = [.unchanged schema] ∧ diff s' s = [.unchanged schema]) ∧
    (∀ k c, s.columns.get? k = some c ↔ IsLast rows k c) ∧
    ∀ t, s.hasTable t = true ↔ ∃ r ∈ rows, r.table = t := by
  intro s s'
  refine ⟨?_, get?_columns_iff_isLast schema capturedAt rows,
    hasTable_ofRows_iff schema capturedAt rows⟩
  intro hperm hkeys
  have htables : s.tables = s'.tables :=
    tables_ofRows_eq_iff.2 fun t => exists_congr fun r => and_congr_left fun _ => hperm.mem_iff
  have hcolumns : s.columns = s'.columns := columns_ofRows_eq_iff.2 (isLast_perm hperm hkeys)
  have hs : s.Keyed := keyed_ofRows schema capturedAt rows
  have hs' : s'.Keyed := keyed_ofRows schema capturedAt' rows'
  exact ⟨htables, hcolumns, fun digest => checksum_congr digest hcolumns,
    diff_of_same hs hs' htables hcolumns, diff_of_same hs' hs htables.symm hcolumns.symm⟩

/-- The columns of two tables, as a catalog may list them. -/
def listedRows : List Column :=
  [⟨"b", "x", "integer", false, ""⟩, ⟨"a", "y", "text", true, ""⟩, ⟨"b", "a", "date", true, ""⟩]

/-- Their snapshot is the same when they are listed backwards, whatever the digest. -/
theorem order_of_listed_rows :
    let s := ofRows "public" "" listedRows
    let s' := ofRows "public" "later" listedRows.reverse
    listedRows.Perm listedRows.reverse ∧ (listedRows.map Column.key).Nodup ∧
      s.columns.names = ["a.y", "b.a", "b.x"] ∧ s.columns = s'.columns ∧
      (∀ digest, s.checksum digest = s'.checksum digest) ∧ diff s s' = [.unchanged "public"] := by
  intro s s'
  have hperm : listedRows.Perm listedRows.reverse := (List.reverse_perm _).symm
  have hkeys : (listedRows.map Column.key).Nodup := by decide +kernel
  obtain ⟨hsame, _, _⟩ := order_of_rows "public" "" "later" listedRows listedRows.reverse
  obtain ⟨_, hcolumns, hchecksum, hdiff, _⟩ := hsame hperm hkeys
  exact ⟨hperm, hkeys, by decide +kernel, hcolumns, hchecksum, hdiff⟩

end ScriptGate.Schema.Snapshot
