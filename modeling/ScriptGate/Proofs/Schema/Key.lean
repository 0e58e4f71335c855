/-
  ScriptGate.Proofs.Schema.Key — what a snapshot keeps of the rows that it is folded from.

  A snapshot keeps its columns under their keys, a key being the name of the table, a dot and the
  name of the column.  A quoted name may hold dots itself, so the same key may come about in two
  ways, with the border between the names at another dot; of such columns a snapshot keeps the last
  one only, while the tables of all of them stay.  Nothing is lost exactly when the rows are about
  different columns and no two of them clash in this way.
  Main statements:
    - `key_eq_iff`            — two columns with one key are the same one, or they clash;
    - `keeps_of_nodup`        — rows with different keys are all kept;
    - `ofRows_keeps_iff`      — a snapshot keeps its rows exactly when no two of them clash.
-/
import Mathlib.Data.List.Nodup
import ScriptGate.Proofs.Schema.Layout

namespace ScriptGate.Schema

open ScriptGate.Collection

/-! ## §1. Keys -/

namespace Column

/-- The border between table and column lies at an earlier dot in `d` than in `c`. -/
def Clashes (c d : Column) : Prop :=
  ∃ middle, c.table = d.table ++ "." ++ middle ∧ d.column = middle ++ "." ++ c.column

theorem toList_key (c : Column) : c.key.toList = c.table.toList ++ '.' :: c.column.toList := by
  unfold key
  rw [String.toList_append, String.toList_append, List.append_assoc]
  rfl

theorem Clashes.key_eq {c d : Column} (h : c.Clashes d) : c.key = d.key := by
  obtain ⟨middle, htable, hcolumn⟩ := h
  unfold key
  rw [htable, hcolumn]
  simp only [String.append_assoc]

/-- Columns that clash are columns of different tables. -/
theorem Clashes.table_ne {c d : Column} (h : c.Clashes d) : c.table ≠ d.table := by
  obtain ⟨middle, htable, _⟩ := h
  intro hsame
  have hlength := congrArg String.length (hsame.symm.trans htable)
  simp only [String.length_append] at hlength
  have hdot : ".".length = 1 := rfl
  omega

/-- Columns clash only where a table has a dot in its name. -/
theorem Clashes.dot_mem {c d : Column} (h : c.Clashes d) : '.' ∈ c.table.toList := by
  obtain ⟨middle, htable, _⟩ := h
  rw [htable]
  simp

/-- Where `c.key` and `d.key` agree and `d.table` goes on behind the end of `c.table`, they
    clash. -/
theorem clashes_of_append {c d : Column} {x : Char} {middle : List Char}
    (htable : d.table.toList = c.table.toList ++ x :: middle)
    (hcolumn : '.' :: c.column.toList = x :: middle ++ '.' :: d.column.toList) :
    d.Clashes c := by
  injection hcolumn with hx hcolumn
  refine ⟨String.ofList middle, ?_, ?_⟩
  · apply String.toList_inj.1
    rw [htable, ← hx]
    simp
  · apply String.toList_inj.1
    rw [hcolumn]
    simp

/-- **Two columns with one key are the same one, or they clash.** -/
theorem key_eq_iff (c d : Column) :
    c.key = d.key ↔
      (c.table = d.table ∧ c.column = d.column) ∨ c.Clashes d ∨ d.Clashes c := by
  constructor
  · intro h
    have hlists : c.table.toList ++ '.' :: c.column.toList
        = d.table.toList ++ '.' :: d.column.toList := by
      rw [← toList_key, ← toList_key, h]
    -- one of the two tables is the beginning of the other
    rcases List.append_eq_append_iff.1 hlists with ⟨more, htable, hcolumn⟩
      | ⟨more, htable, hcolumn⟩
    · cases more with
      | nil =>
        injection hcolumn with _ hcolumn
        rw [List.append_nil] at htable
        exact .inl ⟨(String.toList_inj.1 htable).symm, String.toList_inj.1 hcolumn⟩
      | cons x middle => exact .inr (.inr (clashes_of_append htable hcolumn))
    · cases more with
      | nil =>
        injection hcolumn with _ hcolumn
        rw [List.append_nil] at htable
        exact .inl ⟨String.toList_inj.1 htable, (String.toList_inj.1 hcolumn).symm⟩
      | cons x middle => exact .inr (.inl (clashes_of_append htable hcolumn))
  · rintro (⟨htable, hcolumn⟩ | h | h)
    · unfold key
      rw [htable, hcolumn]
    · exact h.key_eq
    · exact h.key_eq.symm

/-- Rows have different keys exactly when they are about different columns and none clash. -/
theorem nodup_keys_iff (rows : List Column) :
    (rows.map key).Nodup ↔
      (rows.map fun r => (r.table, r.column)).Nodup ∧
        ∀ r ∈ rows, ∀ r' ∈ rows, ¬ r.Clashes r' := by
  constructor
  · intro h
    refine ⟨?_, ?_⟩
    · rw [List.nodup_iff_pairwise_ne, List.pairwise_map] at h ⊢
      refine h.imp ?_
      intro r r' hne hsame
      injection hsame with htable hcolumn
      exact hne ((key_eq_iff r r').2 (.inl ⟨htable, hcolumn⟩))
    · intro r hr r' hr' hclash
      have hsame : r = r' := List.inj_on_of_nodup_map h hr hr' hclash.key_eq
      exact hclash.table_ne (congrArg table hsame)
  · rintro ⟨hpairs, hclash⟩
    rw [List.nodup_iff_pairwise_ne, List.pairwise_map] at hpairs ⊢
    refine hpairs.imp_of_mem ?_
    intro r r' hr hr' hne hkey
    -- keys are the same for one column, or where a point makes two of them clash
    rcases (key_eq_iff r r').1 hkey with ⟨htable, hcolumn⟩ | h | h
    · exact hne (Prod.ext htable hcolumn)
    · exact hclash r hr r' hr' h
    · exact hclash r' hr' r hr h

end Column

/-! ## §2. Rows that are kept -/

namespace Snapshot

/-- Nothing of the rows is lost: there is one column for each of them, and the tables are those of
    the columns. -/
structure Keeps (s : Snapshot) (rows : List Column) : Prop where
  columns : s.columns.entries.Perm (rows.map fun r => (r.key, r))
  tables : ∀ t, s.hasTable t = true ↔ ∃ c ∈ s.columns.values, c.table = t
  /-- no table is without columns -/
  occupied : ∀ t, s.hasTable t = true → s.tableColumns t ≠ []

theorem hasTable_ofRows_iff (schema capturedAt : String) (rows : List Column) (t : String) :
    (ofRows schema capturedAt rows).hasTable t = true ↔ ∃ r ∈ rows, r.table = t := by
  rw [contains_tables_ofRows, List.contains_iff_mem, List.mem_map]

/-- Among rows with different keys, the row that a key finds is the one that has it. -/
theorem find?_key_iff {rows : List Column} (h : (rows.map Column.key).Nodup) (k : String)
    (c : Column) :
    (rows.reverse.find? fun r => r.key == k) = some c ↔ c ∈ rows ∧ c.key = k := by
  constructor
  · intro hfind
    exact ⟨List.mem_reverse.1 (List.mem_of_find?_eq_some hfind),
      by simpa using List.find?_some hfind⟩
  · rintro ⟨hc, hkey⟩
    -- some row with this key is found, and there is no other
    have hsome : (rows.reverse.find? fun r => r.key == k).isSome = true :=
      List.find?_isSome.2 ⟨c, List.mem_reverse.2 hc, by simpa using hkey⟩
    obtain ⟨found, hfound⟩ := Option.isSome_iff_exists.1 hsome
    have hmem : found ∈ rows := List.mem_reverse.1 (List.mem_of_find?_eq_some hfound)
    have hsame : found.key = k := by simpa using List.find?_some hfound
    rw [hfound, List.inj_on_of_nodup_map h hmem hc (hsame.trans hkey.symm)]

/-- The entries of a snapshot whose rows have different keys are the rows. -/
theorem mem_entries_ofRows (schema capturedAt : String) {rows : List Column}
    (h : (rows.map Column.key).Nodup) (e : String × Column) :
    e ∈ (ofRows schema capturedAt rows).columns.entries ↔
      e ∈ rows.map fun r => (r.key, r) := by
  obtain ⟨k, c⟩ := e
  rw [SortedMap.mem_entries, get?_columns_ofRows, find?_key_iff h, List.mem_map]
  constructor
  · rintro ⟨hc, hkey⟩
    exact ⟨c, hc, by rw [hkey]⟩
  · rintro ⟨r, hr, he⟩
    injection he with hkey hrow
    subst hrow
    exact ⟨hr, hkey⟩

/-- **Rows with different keys are all kept.** -/
theorem keeps_of_nodup (schema capturedAt : String) {rows : List Column}
    (h : (rows.map Column.key).Nodup) : (ofRows schema capturedAt rows).Keeps rows := by
  have hentries : (ofRows schema capturedAt rows).columns.entries.Nodup :=
    List.Nodup.of_map Prod.fst (SortedMap.nodup_names _)
  have hrows : (rows.map fun r => (r.key, r)).Nodup := by
    refine List.Nodup.of_map Prod.fst ?_
    rw [List.map_map]
    exact h
  -- both lists have the same entries, each of them once
  have hperm : (ofRows schema capturedAt rows).columns.entries.Perm
      (rows.map fun r => (r.key, r)) :=
    (List.perm_ext_iff_of_nodup hentries hrows).2 (mem_entries_ofRows schema capturedAt h)
  have hvalues : (ofRows schema capturedAt rows).columns.values.Perm rows := by
    have hmap := hperm.map Prod.snd
    rw [List.map_map, show (Prod.snd ∘ fun r : Column => (r.key, r)) = id from rfl,
      List.map_id] at hmap
    exact hmap
  have htables : ∀ t, (ofRows schema capturedAt rows).hasTable t = true ↔
      ∃ c ∈ (ofRows schema capturedAt rows).columns.values, c.table = t := by
    intro t
    rw [hasTable_ofRows_iff]
    exact exists_congr fun c => and_congr_left fun _ => hvalues.mem_iff.symm
  refine ⟨hperm, htables, ?_⟩
  intro t ht hnone
  obtain ⟨c, hc, htable⟩ := (htables t).1 ht
  have hmem : c ∈ (ofRows schema capturedAt rows).tableColumns t :=
    List.mem_filter.2 ⟨hc, by simpa using htable⟩
  rw [hnone] at hmem
  exact List.not_mem_nil hmem

/-- A snapshot that keeps its rows keeps them under different keys. -/
theorem Keeps.nodup {s : Snapshot} {rows : List Column} (h : s.Keeps rows) :
    (rows.map Column.key).Nodup := by
  have hperm := h.columns.map Prod.fst
  rw [List.map_map] at hperm
  exact hperm.nodup_iff.1 s.columns.nodup_names

/-- **What a snapshot keeps of its rows.**  It keeps all of them exactly when they are about
    different columns and no two of them clash.  In any case a key holds the last row that has it,
    and the tables are those of all rows. -/
theorem ofRows_keeps_iff (schema capturedAt : String) (rows : List Column) :
    let s := ofRows schema capturedAt rows
    (s.Keeps rows ↔
      (rows.map fun r => (r.table, r.column)).Nodup ∧
        ∀ r ∈ rows, ∀ r' ∈ rows, ¬ r.Clashes r') ∧
    (∀ k, s.columns.get? k = rows.reverse.find? fun r => r.key == k) ∧
    ∀ t, s.hasTable t = true ↔ ∃ r ∈ rows, r.table = t := by
  intro s
  refine ⟨?_, get?_columns_ofRows schema capturedAt rows,
    hasTable_ofRows_iff schema capturedAt rows⟩
  rw [← Column.nodup_keys_iff]
  exact ⟨fun h => h.nodup, keeps_of_nodup schema capturedAt⟩

/-- Two columns, of the tables `a.b` and `a`, that clash. -/
def dottedRows : List Column :=
  [⟨"a.b", "c", "integer", false, ""⟩, ⟨"a", "b.c", "text", true, ""⟩]

/-- They are different columns, and the first of them is lost, so that its table has none. -/
theorem dotted_row_lost :
    (dottedRows.map fun r => (r.table, r.column)).Nodup ∧
    ¬ (ofRows "public" "" dottedRows).Keeps dottedRows ∧
    (ofRows "public" "" dottedRows).hasTable "a.b" = true ∧
    (ofRows "public" "" dottedRows).tableColumns "a.b" = [] := by
  obtain ⟨hkeeps, _, htables⟩ := ofRows_keeps_iff "public" "" dottedRows
  refine ⟨by decide, ?_, ?_, by decide +kernel⟩
  · intro h
    obtain ⟨_, hclash⟩ := hkeeps.1 h
    exact hclash _ List.mem_cons_self _ (List.mem_cons_of_mem _ List.mem_cons_self)
      ⟨"b", rfl, rfl⟩
  · exact (htables "a.b").2 ⟨_, List.mem_cons_self, rfl⟩

end Snapshot

end ScriptGate.Schema
