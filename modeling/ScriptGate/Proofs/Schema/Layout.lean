/-
  ScriptGate.Proofs.Schema.Layout — what a comparison of two snapshots looks at.

  The layout of a snapshot are its tables and, under the key of each column, the definition of the
  column: its type, its nullability and its default.  Maps have one representation only, so two
  layouts are equal when they answer every look-up alike.
  Main statements:
    - `get?_erase`, `get?_mapValues` — maps without a name, and maps with other values;
    - `get?_ofList`                  — a map of a list holds the last value of each name;
    - `Layout.ext_get?`              — layouts that answer alike are equal;
    - `get?_columns_ofRows`          — a key holds the last row that has it;
    - `keyed_ofRows`                 — a snapshot of rows keeps every column under its own key.
-/
import Mathlib.Data.List.Induction
import ScriptGate.Schema.Change

namespace ScriptGate.Collection

/-! ## §1. Maps -/

namespace SortedMap

/-- The map without this name. -/
def erase (m : SortedMap α) (k : String) : SortedMap α :=
  ⟨m.entries.filter fun e => e.1 != k, List.Pairwise.filter _ m.increasing⟩

theorem increasing_map (f : α → β) {entries : List (String × α)} (h : Increasing entries) :
    Increasing (entries.map fun e => (e.1, f e.2)) := by
  unfold Increasing
  rw [List.pairwise_map]
  exact h

/-- The map with its values changed. -/
def mapValues (f : α → β) (m : SortedMap α) : SortedMap β :=
  ⟨m.entries.map fun e => (e.1, f e.2), increasing_map f m.increasing⟩

/-- A name that is taken out is gone, and no other. -/
theorem get?_erase (m : SortedMap α) (k k' : String) :
    (m.erase k).get? k' = if k' = k then none else m.get? k' := by
  show findEntry k' (m.entries.filter fun e => e.1 != k) = if k' = k then none else
    findEntry k' m.entries
  induction m.entries with
  | nil => simp [findEntry]
  | cons hd tl ih =>
    obtain ⟨n, v⟩ := hd
    rw [List.filter_cons]
    by_cases hn : n = k
    · -- the entry goes, and it was not the one that is looked up
      subst hn
      by_cases hk : k' = n
      · rw [hk] at ih ⊢
        simpa using ih
      · simp [ih, hk, findEntry]
    · by_cases hk : k' = n
      · subst hk
        simp [hn, findEntry]
      · simp [hn, hk, ih, findEntry]

theorem get?_mapValues (f : α → β) (m : SortedMap α) (k : String) :
    (m.mapValues f).get? k = (m.get? k).map f := by
  show findEntry k (m.entries.map fun e => (e.1, f e.2)) = (findEntry k m.entries).map f
  induction m.entries with
  | nil => rfl
  | cons hd tl ih =>
    obtain ⟨n, v⟩ := hd
    by_cases hk : k = n
    · simp [hk, findEntry]
    · simp [hk, ih, findEntry]

/-- A map of a list holds under a name the last value of this name. -/
theorem get?_ofList (name : β → String) (value : β → α) (items : List β) (k : String) :
    (ofList name value items).get? k
      = (items.reverse.find? fun b => name b == k).map value := by
  induction items using List.reverseRecOn with
  | nil => rfl
  | append_singleton items b ih =>
    have hsnoc : ofList name value (items ++ [b])
        = (ofList name value items).insert (name b) (value b) := by
      unfold ofList
      rw [List.foldl_append]
      rfl
    rw [hsnoc, get?_insert, ih, List.reverse_append]
    -- the value put in last is the first one from behind
    by_cases hk : k = name b
    · rw [if_pos hk, hk]
      simp
    · rw [if_neg hk]
      simp [Ne.symm hk]

/-- The entries of a map are its names with their values. -/
theorem mem_entries (m : SortedMap α) (k : String) (v : α) :
    (k, v) ∈ m.entries ↔ m.get? k = some v := by
  obtain ⟨entries, hincreasing⟩ := m
  show (k, v) ∈ entries ↔ findEntry k entries = some v
  induction entries with
  | nil => simp [findEntry]
  | cons hd tl ih =>
    obtain ⟨n, w⟩ := hd
    obtain ⟨hlt, htl⟩ := List.pairwise_cons.1 hincreasing
    rw [List.mem_cons, findEntry]
    by_cases hk : k = n
    · -- the name stands in front, and so it does not stand behind
      subst hk
      have hnot : (k, v) ∉ tl := fun hmem => String.lt_irrefl k (hlt _ hmem)
      rw [if_pos rfl]
      simp [hnot, eq_comm]
    · rw [if_neg hk, ← ih htl]
      simp [hk]

/-- No name is listed twice. -/
theorem nodup_names (m : SortedMap α) : m.names.Nodup := by
  refine List.Pairwise.imp ?_ m.pairwise_names
  intro k k' hlt he
  rw [he] at hlt
  exact String.lt_irrefl k' hlt

end SortedMap

/-- The set of the names of a list has the names of the list. -/
theorem contains_ofNames (names : List String) (k : String) :
    (NameSet.ofNames names).contains k = names.contains k :=
  Schema.Snapshot.contains_foldl_insert names SortedMap.empty k

/-- Sets with the same names are equal. -/
theorem NameSet.ext_contains {a b : NameSet} (h : ∀ k, a.contains k = b.contains k) : a = b := by
  refine SortedMap.ext_get? ?_
  intro k
  have hk : (a.get? k).isSome = (b.get? k).isSome := h k
  -- there is only one value that a name can have in a set
  cases ha : a.get? k <;> cases hb : b.get? k <;> simp [ha, hb] at hk ⊢

end ScriptGate.Collection

namespace ScriptGate.Schema

open ScriptGate.Collection

/-! ## §2. Layouts -/

/-- Tables, and the definitions of columns under their keys. -/
structure Layout where
  /-- names of the tables -/
  tables : NameSet
  /-- definitions of the columns -/
  definitions : SortedMap Column.Definition

/-- Layouts that answer alike are equal. -/
theorem Layout.ext_get? {l l' : Layout} (ht : ∀ t, l.tables.get? t = l'.tables.get? t)
    (hd : ∀ k, l.definitions.get? k = l'.definitions.get? k) : l = l' := by
  obtain ⟨tables, definitions⟩ := l
  obtain ⟨tables', definitions'⟩ := l'
  obtain rfl : tables = tables' := SortedMap.ext_get? ht
  obtain rfl : definitions = definitions' := SortedMap.ext_get? hd
  rfl

namespace Snapshot

/-- The layout of a snapshot. -/
def layout (s : Snapshot) : Layout := ⟨s.tables, s.columns.mapValues Column.definition⟩

theorem get?_layout (s : Snapshot) (k : String) :
    s.layout.definitions.get? k = (s.columns.get? k).map Column.definition :=
  SortedMap.get?_mapValues _ _ k

/-- Every column lies under its own key. -/
def Keyed (s : Snapshot) : Prop := ∀ k c, s.columns.get? k = some c → c.key = k

/-- **A key holds the last row that has it.** -/
theorem get?_columns_ofRows (schema capturedAt : String) (rows : List Column) (k : String) :
    (ofRows schema capturedAt rows).columns.get? k
      = rows.reverse.find? fun r => r.key == k := by
  have h := SortedMap.get?_ofList Column.key id rows k
  rw [Option.map_id_fun, id_eq] at h
  exact h

/-- **A snapshot of rows keeps every column under its own key.** -/
theorem keyed_ofRows (schema capturedAt : String) (rows : List Column) :
    (ofRows schema capturedAt rows).Keyed := by
  intro k c hc
  rw [get?_columns_ofRows] at hc
  simpa using List.find?_some hc

end Snapshot

end ScriptGate.Schema
