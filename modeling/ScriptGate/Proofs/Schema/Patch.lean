/-
  ScriptGate.Proofs.Schema.Patch — a comparison of two snapshots leads from the first to the second.

  The changes that a comparison lists can be carried out one after the other on the layout of the
  first snapshot, and what comes out is the layout of the second: no change is missing.  Each one
  is a difference of the two, so none is made up; they come in a fixed order, at most one for each
  table and each column; and the remark that nothing changed stands there exactly when the layouts
  are equal, and then alone.
  Main statements:
    - `patch_changes`       — carrying the changes out leads to the second layout;
    - `mem_changes`         — the changes are the differences;
    - `pairwise_changes`    — the changes come in order;
    - `diff_patches`        — a comparison is a patch, and its summary counts it.
-/
import ScriptGate.Proofs.Schema.Layout

namespace ScriptGate.Schema

open ScriptGate.Collection

/-! ## §1. Carrying changes out -/

/-- The layout with a change carried out. -/
def Change.apply (c : Change) (l : Layout) : Layout :=
  match c with
  | .tableAdded t => { l with tables := l.tables.insert t () }
  | .tableRemoved t => { l with tables := l.tables.erase t }
  | .columnAdded column | .columnModified _ column =>
    { l with definitions := l.definitions.insert c.path column.definition }
  | .columnRemoved _ => { l with definitions := l.definitions.erase c.path }
  | .unchanged _ => l

/-- The layout with changes carried out in order. -/
def patch (found : List Change) (l : Layout) : Layout := found.foldl (fun l c => c.apply l) l

theorem patch_append (a b : List Change) (l : Layout) :
    patch (a ++ b) l = patch b (patch a l) := List.foldl_append

/-- The group that a change belongs to: new tables come first, then dropped tables, then columns. -/
def Change.group : Change → Nat
  | .tableAdded _ => 0
  | .tableRemoved _ => 1
  | .columnAdded _ | .columnRemoved _ | .columnModified .. => 2
  | .unchanged _ => 3

/-- Changes in order: by group, and within a group by what they are about. -/
def Change.Before (a b : Change) : Prop :=
  a.group < b.group ∨ a.group = b.group ∧ a.path < b.path

/-- The changes that are differences of two snapshots. -/
inductive Differs (before after : Snapshot) : Change → Prop where
  | tableAdded {t} : after.hasTable t = true → before.hasTable t = false →
      Differs before after (.tableAdded t)
  | tableRemoved {t} : before.hasTable t = true → after.hasTable t = false →
      Differs before after (.tableRemoved t)
  | columnAdded {k c} : before.columns.get? k = none → after.columns.get? k = some c →
      Differs before after (.columnAdded c)
  | columnRemoved {k c} : before.columns.get? k = some c → after.columns.get? k = none →
      Differs before after (.columnRemoved c)
  | columnModified {k b a} : before.columns.get? k = some b → after.columns.get? k = some a →
      b.definition ≠ a.definition → Differs before after (.columnModified b a)

/-! ## §2. Tables -/

theorem mem_onlyIn (a b : NameSet) (n : String) :
    n ∈ onlyIn a b ↔ a.contains n = true ∧ b.contains n = false := by
  unfold onlyIn
  rw [List.mem_filter, SortedMap.mem_names, Bool.not_eq_true']

theorem pairwise_onlyIn (a b : NameSet) : (onlyIn a b).Pairwise (· < ·) :=
  List.Pairwise.filter _ a.pairwise_names

/-- Changes that each set one table to `v` set their tables to `v`. -/
theorem patch_tables (form : String → Change) (v : Option Unit)
    (hform : ∀ name (l : Layout), ((form name).apply l).definitions = l.definitions ∧
      ∀ t, ((form name).apply l).tables.get? t = if t = name then v else l.tables.get? t)
    (names : List String) :
    ∀ l : Layout, (patch (names.map form) l).definitions = l.definitions ∧
      ∀ t, (patch (names.map form) l).tables.get? t
        = if t ∈ names then v else l.tables.get? t := by
  induction names with
  | nil => exact fun l => ⟨rfl, fun t => rfl⟩
  | cons name rest ih =>
    intro l
    obtain ⟨hdefinitions, htables⟩ := hform name l
    obtain ⟨hdefinitions', htables'⟩ := ih ((form name).apply l)
    refine ⟨hdefinitions'.trans hdefinitions, ?_⟩
    intro t
    show (patch (rest.map form) ((form name).apply l)).tables.get? t = _
    rw [htables', htables]
    by_cases hrest : t ∈ rest <;> by_cases hname : t = name <;> simp [hrest, hname]

theorem patch_tableAdded (names : List String) (l : Layout) :
    (patch (names.map .tableAdded) l).definitions = l.definitions ∧
      ∀ t, (patch (names.map .tableAdded) l).tables.get? t
        = if t ∈ names then some () else l.tables.get? t :=
  patch_tables .tableAdded (some ())
    (fun name l => ⟨rfl, fun t => l.tables.get?_insert name () t⟩) names l

theorem patch_tableRemoved (names : List String) (l : Layout) :
    (patch (names.map .tableRemoved) l).definitions = l.definitions ∧
      ∀ t, (patch (names.map .tableRemoved) l).tables.get? t
        = if t ∈ names then none else l.tables.get? t :=
  patch_tables .tableRemoved none
    (fun name l => ⟨rfl, fun t => l.tables.get?_erase name t⟩) names l

/-- Adding what is new and dropping what is gone leads to the second set. -/
theorem get?_tables (a b : NameSet) (t : String) :
    (if t ∈ onlyIn b a then none else if t ∈ onlyIn a b then some () else b.get? t)
      = a.get? t := by
  simp only [mem_onlyIn, SortedMap.contains]
  cases a.get? t <;> cases b.get? t <;> simp

/-! ## §3. Columns -/

/-- The keys of the columns that two snapshots have. -/
def keysOf (before after : Snapshot) : List String :=
  (NameSet.ofNames (before.columns.names ++ after.columns.names)).names

/-- The change of the column under a key. -/
def changeAt (before after : Snapshot) (k : String) : Option Change :=
  columnChange? (before.columns.get? k) (after.columns.get? k)

theorem changes_eq (before after : Snapshot) :
    changes before after = (onlyIn after.tables before.tables).map .tableAdded ++
      (onlyIn before.tables after.tables).map .tableRemoved ++
      (keysOf before after).filterMap (changeAt before after) := rfl

theorem mem_keysOf (before after : Snapshot) (k : String) :
    k ∈ keysOf before after ↔
      (before.columns.get? k).isSome = true ∨ (after.columns.get? k).isSome = true := by
  unfold keysOf
  rw [SortedMap.mem_names, contains_ofNames, List.contains_iff_mem, List.mem_append,
    SortedMap.mem_names, SortedMap.mem_names]
  rfl

/-- The change under a key is the difference under this key. -/
theorem changeAt_eq_some {before after : Snapshot} {k : String} {c : Change} :
    changeAt before after k = some c ↔
      (∃ a, before.columns.get? k = none ∧ after.columns.get? k = some a ∧
        .columnAdded a = c) ∨
      (∃ b, before.columns.get? k = some b ∧ after.columns.get? k = none ∧
        .columnRemoved b = c) ∨
      ∃ b a, before.columns.get? k = some b ∧ after.columns.get? k = some a ∧
        b.definition ≠ a.definition ∧ .columnModified b a = c := by
  unfold changeAt columnChange?
  cases before.columns.get? k with
  | none =>
    cases after.columns.get? k with
    | none => simp
    | some a => simp
  | some b =>
    cases after.columns.get? k with
    | none => simp
    | some a => by_cases hsame : b.definition = a.definition <;> simp [Column.sameDefinition, hsame]

/-- The change under a key is about this key. -/
theorem path_changeAt {before after : Snapshot} (hb : before.Keyed) (ha : after.Keyed)
    {k : String} {c : Change} (h : changeAt before after k = some c) :
    c.path = k ∧ c.group = 2 := by
  rcases changeAt_eq_some.1 h with ⟨a, _, hk, rfl⟩ | ⟨b, hk, _, rfl⟩ | ⟨_, a, _, hk, _, rfl⟩
  · exact ⟨ha k a hk, rfl⟩
  · exact ⟨hb k b hk, rfl⟩
  · exact ⟨ha k a hk, rfl⟩

/-- Carrying out the change under a key brings the second definition under this key. -/
theorem patch_changeAt {before after : Snapshot} (hb : before.Keyed) (ha : after.Keyed)
    {l : Layout} {k : String}
    (hl : l.definitions.get? k = (before.columns.get? k).map Column.definition) :
    (patch (changeAt before after k).toList l).tables = l.tables ∧
    ∀ k', (patch (changeAt before after k).toList l).definitions.get? k'
      = if k' = k then (after.columns.get? k).map Column.definition
        else l.definitions.get? k' := by
  cases hchange : changeAt before after k with
  | none =>
    -- nothing changed here, so the definition is the second one already
    have hsame : (before.columns.get? k).map Column.definition
        = (after.columns.get? k).map Column.definition := by
      unfold changeAt columnChange? at hchange
      cases hbk : before.columns.get? k <;> cases hak : after.columns.get? k <;>
        simp_all [Column.sameDefinition]
    refine ⟨rfl, ?_⟩
    intro k'
    by_cases hk : k' = k
    · rw [if_pos hk, hk, ← hsame]
      exact hl
    · rw [if_neg hk]
      rfl
  | some c =>
    have hpath := (path_changeAt hb ha hchange).1
    rcases changeAt_eq_some.1 hchange with ⟨a, _, hak, rfl⟩ | ⟨b, _, hak, rfl⟩
      | ⟨b, a, _, hak, _, rfl⟩
    · refine ⟨rfl, fun k' => ?_⟩
      show (l.definitions.insert (Change.columnAdded a).path a.definition).get? k' = _
      rw [hpath, SortedMap.get?_insert, hak]
      rfl
    · refine ⟨rfl, fun k' => ?_⟩
      show (l.definitions.erase (Change.columnRemoved b).path).get? k' = _
      rw [hpath, SortedMap.get?_erase, hak]
      rfl
    · refine ⟨rfl, fun k' => ?_⟩
      show (l.definitions.insert (Change.columnModified b a).path a.definition).get? k' = _
      rw [hpath, SortedMap.get?_insert, hak]
      rfl

/-- Carrying out the changes under some keys brings the second definitions under these keys. -/
theorem patch_columns {before after : Snapshot} (hb : before.Keyed) (ha : after.Keyed)
    {keys : List String} :
    ∀ {l : Layout}, keys.Nodup →
      (∀ k ∈ keys, l.definitions.get? k = (before.columns.get? k).map Column.definition) →
      (patch (keys.filterMap (changeAt before after)) l).tables = l.tables ∧
      ∀ k', (patch (keys.filterMap (changeAt before after)) l).definitions.get? k'
        = if k' ∈ keys then (after.columns.get? k').map Column.definition
          else l.definitions.get? k' := by
  induction keys with
  | nil => exact fun _ _ => ⟨rfl, fun k' => rfl⟩
  | cons k rest ih =>
    intro l hnodup hl
    obtain ⟨hk, hrest⟩ := List.nodup_cons.1 hnodup
    obtain ⟨htables, hdefinitions⟩ := patch_changeAt hb ha (hl k List.mem_cons_self)
    -- the keys that are still to come have not been touched
    have hahead : ∀ k' ∈ rest, (patch (changeAt before after k).toList l).definitions.get? k'
        = (before.columns.get? k').map Column.definition := by
      intro k' hk'
      have hne : k' ≠ k := fun he => hk (he ▸ hk')
      rw [hdefinitions, if_neg hne]
      exact hl k' (List.mem_cons_of_mem _ hk')
    obtain ⟨htables', hdefinitions'⟩ := ih hrest hahead
    have hcons : (k :: rest).filterMap (changeAt before after)
        = (changeAt before after k).toList ++ rest.filterMap (changeAt before after) := by
      cases h : changeAt before after k <;> simp [h]
    rw [hcons, patch_append]
    refine ⟨htables'.trans htables, ?_⟩
    intro k'
    rw [hdefinitions', hdefinitions]
    by_cases hk' : k' ∈ rest
    · rw [if_pos hk', if_pos (List.mem_cons_of_mem _ hk')]
    · by_cases he : k' = k
      · rw [if_neg hk', if_pos he, if_pos (he ▸ List.mem_cons_self), he]
      · rw [if_neg hk', if_neg he, if_neg (by simp [he, hk'])]

/-! ## §4. The changes as a whole -/

/-- **Carrying the changes out leads to the second layout.** -/
theorem patch_changes {before after : Snapshot} (hb : before.Keyed) (ha : after.Keyed) :
    patch (changes before after) before.layout = after.layout := by
  rw [changes_eq, patch_append, patch_append]
  obtain ⟨hdefinitions₁, htables₁⟩ :=
    patch_tableAdded (onlyIn after.tables before.tables) before.layout
  obtain ⟨hdefinitions₂, htables₂⟩ :=
    patch_tableRemoved (onlyIn before.tables after.tables)
      (patch ((onlyIn after.tables before.tables).map .tableAdded) before.layout)
  have hnodup : (keysOf before after).Nodup := SortedMap.nodup_names _
  obtain ⟨htables₃, hdefinitions₃⟩ :=
    patch_columns hb ha hnodup (l := patch ((onlyIn before.tables after.tables).map .tableRemoved)
      (patch ((onlyIn after.tables before.tables).map .tableAdded) before.layout))
      (by
        intro k _
        rw [hdefinitions₂, hdefinitions₁]
        exact before.get?_layout k)
  -- a layout is known by its tables and by the definitions under its keys
  refine Layout.ext_get? ?_ ?_
  · intro t
    rw [htables₃, htables₂, htables₁]
    exact get?_tables after.tables before.tables t
  · intro k
    rw [hdefinitions₃, hdefinitions₂, hdefinitions₁, after.get?_layout, before.get?_layout]
    by_cases hk : k ∈ keysOf before after
    · rw [if_pos hk]
    · -- neither snapshot has such a column
      rw [if_neg hk]
      rw [mem_keysOf] at hk
      have hbk : before.columns.get? k = none := by simpa using fun h => hk (.inl h)
      have hak : after.columns.get? k = none := by simpa using fun h => hk (.inr h)
      rw [hbk, hak]

/-- **The changes are the differences.** -/
theorem mem_changes (before after : Snapshot) (c : Change) :
    c ∈ changes before after ↔ Differs before after c := by
  rw [changes_eq, List.mem_append, List.mem_append, List.mem_map, List.mem_map, List.mem_filterMap]
  -- tables are found in one snapshot only, columns by their keys in both
  constructor
  · rintro ((⟨t, ht, rfl⟩ | ⟨t, ht, rfl⟩) | ⟨k, _, hk⟩)
    · obtain ⟨hafter, hbefore⟩ := (mem_onlyIn _ _ t).1 ht
      exact .tableAdded hafter hbefore
    · obtain ⟨hbefore, hafter⟩ := (mem_onlyIn _ _ t).1 ht
      exact .tableRemoved hbefore hafter
    · rcases changeAt_eq_some.1 hk with ⟨a, hb, ha, rfl⟩ | ⟨b, hb, ha, rfl⟩
        | ⟨b, a, hb, ha, hne, rfl⟩
      · exact .columnAdded hb ha
      · exact .columnRemoved hb ha
      · exact .columnModified hb ha hne
  · intro h
    cases h with
    | tableAdded hafter hbefore =>
      exact .inl (.inl ⟨_, (mem_onlyIn _ _ _).2 ⟨hafter, hbefore⟩, rfl⟩)
    | tableRemoved hbefore hafter =>
      exact .inl (.inr ⟨_, (mem_onlyIn _ _ _).2 ⟨hbefore, hafter⟩, rfl⟩)
    | @columnAdded k c hb ha =>
      refine .inr ⟨k, ?_, changeAt_eq_some.2 (.inl ⟨c, hb, ha, rfl⟩)⟩
      simp [mem_keysOf, ha]
    | @columnRemoved k c hb ha =>
      refine .inr ⟨k, ?_, changeAt_eq_some.2 (.inr (.inl ⟨c, hb, ha, rfl⟩))⟩
      simp [mem_keysOf, hb]
    | @columnModified k b a hb ha hne =>
      refine .inr ⟨k, ?_, changeAt_eq_some.2 (.inr (.inr ⟨b, a, hb, ha, hne, rfl⟩))⟩
      simp [mem_keysOf, hb]

/-- **The changes come in order.** -/
theorem pairwise_changes {before after : Snapshot} (hb : before.Keyed) (ha : after.Keyed) :
    (changes before after).Pairwise Change.Before := by
  have hadded : ((onlyIn after.tables before.tables).map Change.tableAdded).Pairwise
      Change.Before :=
    List.pairwise_map.2 ((pairwise_onlyIn _ _).imp fun h => .inr ⟨rfl, h⟩)
  have hremoved : ((onlyIn before.tables after.tables).map Change.tableRemoved).Pairwise
      Change.Before :=
    List.pairwise_map.2 ((pairwise_onlyIn _ _).imp fun h => .inr ⟨rfl, h⟩)
  have hcolumns : ((keysOf before after).filterMap (changeAt before after)).Pairwise
      Change.Before := by
    refine List.Pairwise.filterMap _ ?_ (SortedMap.pairwise_names _)
    intro k k' hlt c hc c' hc'
    obtain ⟨hpath, hgroup⟩ := path_changeAt hb ha hc
    obtain ⟨hpath', hgroup'⟩ := path_changeAt hb ha hc'
    refine .inr ⟨hgroup.trans hgroup'.symm, ?_⟩
    rw [hpath, hpath']
    exact hlt
  -- tables that are new come first, then those that are gone, then columns
  rw [changes_eq, List.pairwise_append, List.pairwise_append]
  refine ⟨⟨hadded, hremoved, ?_⟩, hcolumns, ?_⟩
  · intro c hc c' hc'
    obtain ⟨t, _, rfl⟩ := List.mem_map.1 hc
    obtain ⟨t', _, rfl⟩ := List.mem_map.1 hc'
    exact .inl Nat.zero_lt_one
  · intro c hc c' hc'
    obtain ⟨k, _, hk⟩ := List.mem_filterMap.1 hc'
    refine .inl ?_
    rw [(path_changeAt hb ha hk).2]
    rcases List.mem_append.1 hc with hc | hc
    · obtain ⟨t, _, rfl⟩ := List.mem_map.1 hc
      exact Nat.zero_lt_two
    · obtain ⟨t, _, rfl⟩ := List.mem_map.1 hc
      exact Nat.one_lt_two

/-- A difference is a change. -/
theorem Differs.isChange {before after : Snapshot} {c : Change} (h : Differs before after c) :
    c.isChange = true := by
  cases h <;> rfl

/-- There are no changes exactly when the layouts are equal. -/
theorem changes_eq_nil_iff {before after : Snapshot} (hb : before.Keyed) (ha : after.Keyed) :
    changes before after = [] ↔ before.layout = after.layout := by
  constructor
  · intro hnil
    have h := patch_changes hb ha
    rwa [hnil] at h
  · intro hsame
    have htables : before.tables = after.tables := congrArg Layout.tables hsame
    have hdefinitions : ∀ k, (before.columns.get? k).map Column.definition
        = (after.columns.get? k).map Column.definition := by
      intro k
      rw [← before.get?_layout, hsame, after.get?_layout]
    rw [List.eq_nil_iff_forall_not_mem]
    intro c hc
    -- every kind of difference shows in the layouts
    cases (mem_changes before after c).1 hc with
    | tableAdded h h' =>
      unfold Snapshot.hasTable at h h'
      rw [htables, h] at h'
      exact Bool.noConfusion h'
    | tableRemoved h h' =>
      unfold Snapshot.hasTable at h h'
      rw [htables, h'] at h
      exact Bool.noConfusion h
    | @columnAdded k _ h h' | @columnRemoved k _ h h' =>
      have hk := hdefinitions k
      rw [h, h'] at hk
      exact absurd hk (by simp)
    | @columnModified k _ _ h h' hne =>
      have hk := hdefinitions k
      rw [h, h'] at hk
      exact hne (Option.some.inj hk)

/-! ## §5. Comparisons -/

/-- A comparison is the remark that nothing changed, or else the changes. -/
theorem diff_cases (before after : Snapshot) :
    (changes before after = [] ∧ diff before after = [.unchanged after.schema]) ∨
      (changes before after ≠ [] ∧ diff before after = changes before after) := by
  unfold diff
  cases h : changes before after with
  | nil => exact .inl ⟨rfl, rfl⟩
  | cons c rest => exact .inr ⟨List.cons_ne_nil _ _, rfl⟩

theorem isChange_of_mem_changes {before after : Snapshot} {c : Change}
    (h : c ∈ changes before after) : c.isChange = true :=
  ((mem_changes before after c).1 h).isChange

/-- The remark that nothing changed alters no layout. -/
theorem patch_diff (before after : Snapshot) (l : Layout) :
    patch (diff before after) l = patch (changes before after) l := by
  rcases diff_cases before after with ⟨hnone, hdiff⟩ | ⟨_, hdiff⟩
  · rw [hnone, hdiff]
    rfl
  · rw [hdiff]

theorem mem_diff (before after : Snapshot) (c : Change) :
    c ∈ diff before after ∧ c.isChange = true ↔ Differs before after c := by
  rw [← mem_changes]
  rcases diff_cases before after with ⟨hnone, hdiff⟩ | ⟨_, hdiff⟩
  · rw [hnone, hdiff]
    refine ⟨?_, fun h => absurd h List.not_mem_nil⟩
    rintro ⟨hc, hchange⟩
    rw [List.mem_singleton.1 hc] at hchange
    exact Bool.noConfusion hchange
  · rw [hdiff]
    exact ⟨fun h => h.1, fun h => ⟨h, isChange_of_mem_changes h⟩⟩

theorem pairwise_diff {before after : Snapshot} (hb : before.Keyed) (ha : after.Keyed) :
    (diff before after).Pairwise Change.Before := by
  rcases diff_cases before after with ⟨_, hdiff⟩ | ⟨_, hdiff⟩
  · rw [hdiff]
    exact List.pairwise_singleton _ _
  · rw [hdiff]
    exact pairwise_changes hb ha

/-- The remark that nothing changed stands where there are no changes. -/
theorem unchanged_mem_diff (before after : Snapshot) :
    (∃ name, Change.unchanged name ∈ diff before after) ↔ changes before after = [] := by
  rcases diff_cases before after with ⟨hnone, hdiff⟩ | ⟨hsome, hdiff⟩
  · rw [hdiff]
    exact ⟨fun _ => hnone, fun _ => ⟨_, List.mem_singleton.2 rfl⟩⟩
  · rw [hdiff]
    refine ⟨?_, fun h => absurd h hsome⟩
    rintro ⟨name, hname⟩
    exact Bool.noConfusion (isChange_of_mem_changes hname)

/-- It stands alone. -/
theorem diff_eq_unchanged_iff (before after : Snapshot) :
    diff before after = [.unchanged after.schema] ↔ changes before after = [] := by
  rw [← unchanged_mem_diff]
  constructor
  · intro h
    rw [h]
    exact ⟨_, List.mem_singleton.2 rfl⟩
  · intro h
    rw [unchanged_mem_diff] at h
    rcases diff_cases before after with ⟨_, hdiff⟩ | ⟨hsome, _⟩
    · exact hdiff
    · exact absurd h hsome

/-- The total counts the changes. -/
theorem total_diff_eq_zero_iff (before after : Snapshot) :
    (Summary.ofChanges (diff before after)).total = 0 ↔ changes before after = [] := by
  show (diff before after).countP Change.isChange = 0 ↔ _
  rcases diff_cases before after with ⟨hnone, hdiff⟩ | ⟨hsome, hdiff⟩
  · rw [hdiff, hnone]
    exact ⟨fun _ => rfl, fun _ => rfl⟩
  · rw [hdiff]
    refine ⟨fun hzero => ?_, fun h => absurd h hsome⟩
    obtain ⟨c, hc⟩ := List.exists_mem_of_ne_nil _ hsome
    exact absurd (isChange_of_mem_changes hc) (List.countP_eq_zero.1 hzero c hc)

/-- **A comparison is a patch.**  It leads from the first snapshot to the second and has just the
    differences of the two, in order; it says that nothing changed exactly when the layouts are
    equal, and then nothing else; and the total of its summary is the sum of the counters, which
    is zero only then. -/
theorem diff_patches (schema capturedAt schema' capturedAt' : String)
    (rows rows' : List Column) :
    let before := Snapshot.ofRows schema capturedAt rows
    let after := Snapshot.ofRows schema' capturedAt' rows'
    let found := diff before after
    let counted := Summary.ofChanges found
    patch found before.layout = after.layout ∧
    (∀ c, c ∈ found ∧ c.isChange = true ↔ Differs before after c) ∧
    found.Pairwise Change.Before ∧ found ≠ [] ∧
    ((∃ name, .unchanged name ∈ found) ↔ before.layout = after.layout) ∧
    (found = [.unchanged after.schema] ↔ before.layout = after.layout) ∧
    counted.total = counted.tablesAdded + counted.tablesRemoved + counted.columnsAdded +
      counted.columnsRemoved + counted.columnsModified ∧
    (counted.total = 0 ↔ found = [.unchanged after.schema]) := by
  intro before after found counted
  have hb : before.Keyed := Snapshot.keyed_ofRows schema capturedAt rows
  have ha : after.Keyed := Snapshot.keyed_ofRows schema' capturedAt' rows'
  have hlayout := changes_eq_nil_iff hb ha
  have hunchanged := diff_eq_unchanged_iff before after
  refine ⟨?_, mem_diff before after, pairwise_diff hb ha, diff_ne_nil before after, ?_, ?_,
    Summary.total_eq found, ?_⟩
  · rw [patch_diff]
    exact patch_changes hb ha
  · exact (unchanged_mem_diff before after).trans hlayout
  · exact hunchanged.trans hlayout
  · exact (total_diff_eq_zero_iff before after).trans hunchanged.symm

end ScriptGate.Schema
