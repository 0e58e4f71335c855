/-
  ScriptGate.Proofs.Schema.Checksum — when the checksums of two snapshots agree.

  A checksum is the digest of a text with one line for each column: its key, its type, whether it
  may be null and its default, with separators between them that nothing protects.  Snapshots that
  do not differ have the same text.  The other way round, a text is read back field by field where
  no field holds the separator behind it, and then snapshots with one text do not differ, provided
  that no row of the one clashes with a row of the other.  All four conditions are needed: where a
  separator can be moved, different columns have the same text, and so the same checksum whatever
  the digest.
  Main statements:
    - `serialised_congr`     — snapshots with the same definitions have the same text;
    - `definitions_of_lines` — lines of legible columns are read back;
    - `serialised_eq_iff`    — where rows compare, texts agree exactly when layouts do;
    - `Misread.blind`        — rows with a border that was moved have one checksum and differ.
-/
import ScriptGate.Proofs.Schema.Key
import ScriptGate.Proofs.Schema.Patch

namespace ScriptGate.Schema

open ScriptGate.Collection

/-! ## §1. Lines -/

/-- The fields of a column that stand in front of a separator do not hold it. -/
structure Column.Legible (c : Column) : Prop where
  key : ':' ∉ c.key.toList
  dataType : '|' ∉ c.dataType.toList
  default : '\n' ∉ c.default.toList

namespace Snapshot

/-- A text is cut in one way at the first place where the separator stands. -/
theorem eq_of_append_cons {x x' y y' : List α} {a : α} (hx : a ∉ x) (hx' : a ∉ x')
    (h : x ++ a :: y = x' ++ a :: y') : x = x' ∧ y = y' := by
  -- if one of the two went on behind the other, the separator would stand in it
  rcases List.append_eq_append_iff.1 h with ⟨more, hmore, hy⟩ | ⟨more, hmore, hy⟩
  · cases more with
    | nil =>
      injection hy with _ hy
      rw [List.append_nil] at hmore
      exact ⟨hmore.symm, hy⟩
    | cons b more =>
      injection hy with hb _
      rw [hmore, ← hb] at hx'
      exact absurd (List.mem_append.2 (.inr List.mem_cons_self)) hx'
  · cases more with
    | nil =>
      injection hy with _ hy
      rw [List.append_nil] at hmore
      exact ⟨hmore, hy.symm⟩
    | cons b more =>
      injection hy with hb _
      rw [hmore, ← hb] at hx
      exact absurd (List.mem_append.2 (.inr List.mem_cons_self)) hx

/-- How nullability is written in a line. -/
def nullableText (nullable : Bool) : String := if nullable then "true" else "false"

theorem nullableText_inj {a b : Bool} (h : (nullableText a).toList = (nullableText b).toList) :
    a = b := by
  revert h
  cases a <;> cases b <;> decide

theorem bar_notMem_nullableText (a : Bool) : '|' ∉ (nullableText a).toList := by
  cases a <;> decide

theorem toList_columnLine (k : String) (c : Column) :
    (columnLine k c).toList = k.toList ++ ':' :: (c.dataType.toList ++ '|' ::
      ((nullableText c.nullable).toList ++ '|' :: (c.default.toList ++ ['\n']))) := by
  show (k ++ ":" ++ c.dataType ++ "|" ++ nullableText c.nullable ++ "|" ++ c.default
    ++ "\n").toList = _
  simp only [String.toList_append, List.append_assoc]
  rfl

/-- The line of a legible column is read back, whatever follows it. -/
theorem columnLine_append_inj {c c' : Column} (hc : c.Legible) (hc' : c'.Legible)
    {rest rest' : List Char}
    (h : (columnLine c.key c).toList ++ rest = (columnLine c'.key c').toList ++ rest') :
    c.key = c'.key ∧ c.definition = c'.definition ∧ rest = rest' := by
  simp only [toList_columnLine, List.append_assoc, List.cons_append, List.nil_append] at h
  -- field by field, each up to the separator behind it
  obtain ⟨hkey, h⟩ := eq_of_append_cons hc.key hc'.key h
  obtain ⟨htype, h⟩ := eq_of_append_cons hc.dataType hc'.dataType h
  obtain ⟨hnullable, h⟩ :=
    eq_of_append_cons (bar_notMem_nullableText _) (bar_notMem_nullableText _) h
  obtain ⟨hdefault, hrest⟩ := eq_of_append_cons hc.default hc'.default h
  refine ⟨String.toList_inj.1 hkey, ?_, hrest⟩
  unfold Column.definition
  rw [String.toList_inj.1 htype, nullableText_inj hnullable, String.toList_inj.1 hdefault]

/-- The entries of legible columns, each under its own key. -/
def LegibleEntries (entries : List (String × Column)) : Prop :=
  ∀ e ∈ entries, e.2.key = e.1 ∧ e.2.Legible

/-- **Lines of legible columns are read back.** -/
theorem definitions_of_lines {xs ys : List (String × Column)} (hx : LegibleEntries xs)
    (hy : LegibleEntries ys)
    (h : (xs.flatMap fun e => (columnLine e.1 e.2).toList)
      = ys.flatMap fun e => (columnLine e.1 e.2).toList) :
    (xs.map fun e => (e.1, e.2.definition)) = ys.map fun e => (e.1, e.2.definition) := by
  -- no line is empty, so neither list ends before the other
  have hline : ∀ (k : String) (c : Column) (rest : List Char),
      (columnLine k c).toList ++ rest ≠ [] := by
    intro k c rest hnil
    rw [toList_columnLine] at hnil
    simp at hnil
  induction xs generalizing ys with
  | nil =>
    cases ys with
    | nil => rfl
    | cons y ys => exact absurd h.symm (hline y.1 y.2 _)
  | cons x xs ih =>
    cases ys with
    | nil => exact absurd h (hline x.1 x.2 _)
    | cons y ys =>
      obtain ⟨⟨hxkey, hxlegible⟩, hxs⟩ := List.forall_mem_cons.1 hx
      obtain ⟨⟨hykey, hylegible⟩, hys⟩ := List.forall_mem_cons.1 hy
      rw [List.flatMap_cons, List.flatMap_cons, ← hxkey, ← hykey] at h
      obtain ⟨hkey, hdefinition, hrest⟩ := columnLine_append_inj hxlegible hylegible h
      rw [List.map_cons, List.map_cons, ih hxs hys hrest, ← hxkey, ← hykey, hkey, hdefinition]

/-! ## §2. Texts -/

theorem toList_serialised (s : Snapshot) :
    s.serialised.toList = s.columns.entries.flatMap fun e => (columnLine e.1 e.2).toList := by
  unfold serialised
  rw [String.toList_join, List.flatMap_map]

/-- **Snapshots with the same definitions have the same text.** -/
theorem serialised_congr {s t : Snapshot} (h : s.layout.definitions = t.layout.definitions) :
    s.serialised = t.serialised := by
  -- a line shows nothing of a column but its definition
  have key : ∀ u : Snapshot, u.serialised = String.join (u.layout.definitions.entries.map
      fun e => columnLine e.1 ⟨"", "", e.2.dataType, e.2.nullable, e.2.default⟩) := by
    intro u
    show u.serialised = String.join ((u.columns.entries.map
      fun e => (e.1, e.2.definition)).map _)
    rw [List.map_map]
    rfl
  rw [key, key, h]

/-- Snapshots with the same text have the same definitions if their columns are legible. -/
theorem definitions_of_serialised {s t : Snapshot} (hs : LegibleEntries s.columns.entries)
    (ht : LegibleEntries t.columns.entries) (h : s.serialised = t.serialised) :
    s.layout.definitions = t.layout.definitions := by
  have hlines := congrArg String.toList h
  rw [toList_serialised, toList_serialised] at hlines
  have hentries : s.layout.definitions.entries = t.layout.definitions.entries :=
    definitions_of_lines hs ht hlines
  refine SortedMap.ext_get? fun k => ?_
  show findEntry k s.layout.definitions.entries = findEntry k t.layout.definitions.entries
  rw [hentries]

/-- The columns of a snapshot of legible rows are legible. -/
theorem legibleEntries_ofRows (schema capturedAt : String) {rows : List Column}
    (h : ∀ r ∈ rows, r.Legible) :
    LegibleEntries (ofRows schema capturedAt rows).columns.entries := by
  rintro ⟨k, c⟩ he
  have hget := (SortedMap.mem_entries _ k c).1 he
  refine ⟨keyed_ofRows schema capturedAt rows k c hget, h c ?_⟩
  rw [get?_columns_ofRows] at hget
  exact List.mem_reverse.1 (List.mem_of_find?_eq_some hget)

/-! ## §3. Rows that compare -/

/-- Rows whose texts tell whether they differ: all of them are legible, and no row of the one
    clashes with a row of the other. -/
structure Comparable (rows rows' : List Column) : Prop where
  legible : ∀ r ∈ rows, r.Legible
  legible' : ∀ r ∈ rows', r.Legible
  apart : ∀ r ∈ rows, ∀ r' ∈ rows', ¬ r.Clashes r' ∧ ¬ r'.Clashes r

theorem Comparable.symm {rows rows' : List Column} (h : Comparable rows rows') :
    Comparable rows' rows :=
  ⟨h.legible', h.legible, fun r' hr' r hr => (h.apart r hr r' hr').symm⟩

section

variable {schema capturedAt schema' capturedAt' : String} {rows rows' : List Column}

/-- The definition that a layout has under a key is that of the last row with this key. -/
theorem get?_definitions_ofRows (schema capturedAt : String) (rows : List Column) (k : String) :
    (ofRows schema capturedAt rows).layout.definitions.get? k
      = (rows.reverse.find? fun r => r.key == k).map Column.definition := by
  rw [get?_layout, get?_columns_ofRows]

/-- Snapshots with equal definitions have rows with the same keys. -/
theorem exists_key_of_definitions
    (h : (ofRows schema capturedAt rows).layout.definitions
      = (ofRows schema' capturedAt' rows').layout.definitions) {r : Column} (hr : r ∈ rows) :
    ∃ r' ∈ rows', r'.key = r.key := by
  have hsome : (rows.reverse.find? fun r' => r'.key == r.key).isSome = true :=
    List.find?_isSome.2 ⟨r, List.mem_reverse.2 hr, beq_self_eq_true _⟩
  rw [← Option.isSome_map (f := Column.definition), ← get?_definitions_ofRows schema capturedAt, h,
    get?_definitions_ofRows, Option.isSome_map] at hsome
  obtain ⟨r', hr', hkey⟩ := List.find?_isSome.1 hsome
  exact ⟨r', List.mem_reverse.1 hr', by simpa using hkey⟩

/-- Where rows compare, equal definitions come with equal tables. -/
theorem hasTable_of_definitions (h : Comparable rows rows')
    (hsame : (ofRows schema capturedAt rows).layout.definitions
      = (ofRows schema' capturedAt' rows').layout.definitions) {t : String}
    (ht : (ofRows schema capturedAt rows).hasTable t = true) :
    (ofRows schema' capturedAt' rows').hasTable t = true := by
  obtain ⟨r, hr, rfl⟩ := (hasTable_ofRows_iff _ _ _ _).1 ht
  obtain ⟨r', hr', hkey⟩ := exists_key_of_definitions hsame hr
  refine (hasTable_ofRows_iff _ _ _ _).2 ⟨r', hr', ?_⟩
  obtain ⟨hclash, hclash'⟩ := h.apart r hr r' hr'
  rcases (Column.key_eq_iff r' r).1 hkey with ⟨htable, _⟩ | hwrong | hwrong
  · exact htable
  · exact absurd hwrong hclash'
  · exact absurd hwrong hclash

/-- **Where rows compare, texts agree exactly when layouts do.** -/
theorem serialised_eq_iff (h : Comparable rows rows') :
    (ofRows schema capturedAt rows).serialised = (ofRows schema' capturedAt' rows').serialised ↔
      (ofRows schema capturedAt rows).layout = (ofRows schema' capturedAt' rows').layout := by
  constructor
  · intro htext
    have hdefinitions := definitions_of_serialised
      (legibleEntries_ofRows schema capturedAt h.legible)
      (legibleEntries_ofRows schema' capturedAt' h.legible') htext
    have htables : (ofRows schema capturedAt rows).tables
        = (ofRows schema' capturedAt' rows').tables :=
      NameSet.ext_contains fun t => Bool.eq_iff_iff.2 ⟨hasTable_of_definitions h hdefinitions,
        hasTable_of_definitions h.symm hdefinitions.symm⟩
    exact Layout.ext_get? (fun t => congrArg (·.get? t) htables) fun k => by rw [hdefinitions]
  · exact fun hlayout => serialised_congr (congrArg Layout.definitions hlayout)

/-- The remark that nothing changed stands alone exactly when the layouts are equal. -/
theorem diff_unchanged_iff (schema capturedAt capturedAt' : String) (rows rows' : List Column) :
    diff (ofRows schema capturedAt rows) (ofRows schema capturedAt' rows')
        = [.unchanged schema] ↔
      (ofRows schema capturedAt rows).layout = (ofRows schema capturedAt' rows').layout :=
  (diff_eq_unchanged_iff _ _).trans (changes_eq_nil_iff (keyed_ofRows _ _ _) (keyed_ofRows _ _ _))

/-! ## §4. Borders that move -/

/-- Rows that differ by a border between two fields, which stands at another separator. -/
inductive Misread : List Column → List Column → Prop where
  /-- a dot in a name -/
  | dot {a b c dataType nullable default} :
      Misread [⟨a ++ "." ++ b, c, dataType, nullable, default⟩]
        [⟨a, b ++ "." ++ c, dataType, nullable, default⟩]
  /-- a bar in the type or in the default -/
  | bar {table column a b nullable nullable' default} :
      Misread [⟨table, column, a ++ "|" ++ nullableText nullable ++ "|" ++ b, nullable', default⟩]
        [⟨table, column, a, nullable, b ++ "|" ++ nullableText nullable' ++ "|" ++ default⟩]
  /-- a line break in the default, with the next line behind it -/
  | lineBreak {c d : Column} : c.key < d.key →
      Misread [c, d] [{ c with
        default := c.default ++ "\n" ++ d.key ++ ":" ++ d.dataType ++ "|" ++
          nullableText d.nullable ++ "|" ++ d.default }]
  /-- a colon in a name, with the rest of the line and the next key behind it -/
  | colon {c d : Column} : c.key < d.key →
      Misread [c, d] [{ d with
        table := c.table
        column := c.column ++ ":" ++ c.dataType ++ "|" ++ nullableText c.nullable ++ "|" ++
          c.default ++ "\n" ++ d.key }]

theorem serialised_single (schema capturedAt : String) (c : Column) :
    (ofRows schema capturedAt [c]).serialised = columnLine c.key c := by
  show String.join [columnLine c.key c] = _
  rw [String.join_cons, String.join_nil, String.append_empty]

theorem serialised_pair (schema capturedAt : String) {c d : Column} (h : c.key < d.key) :
    (ofRows schema capturedAt [c, d]).serialised = columnLine c.key c ++ columnLine d.key d := by
  have hentries : putEntry d.key d [(c.key, c)] = [(c.key, c), (d.key, d)] := by
    have hne : d.key ≠ c.key := fun he => String.lt_irrefl _ (he ▸ h)
    unfold putEntry
    rw [if_neg fun hgt => String.lt_irrefl _ (String.lt_trans hgt h), if_neg hne]
    rfl
  show String.join ((putEntry d.key d [(c.key, c)]).map fun e => columnLine e.1 e.2) = _
  rw [hentries]
  show String.join [columnLine c.key c, columnLine d.key d] = _
  rw [String.join_cons, String.join_cons, String.join_nil, String.append_empty]

/-- Their text is the same. -/
theorem Misread.same_text (h : Misread rows rows') :
    (ofRows schema capturedAt rows).serialised
      = (ofRows schema' capturedAt' rows').serialised := by
  cases h with
  | lineBreak hlt | colon hlt =>
    rw [serialised_pair _ _ hlt, serialised_single]
    apply String.toList_inj.1
    rw [String.toList_append, toList_columnLine, toList_columnLine, toList_columnLine]
    simp [Column.key]
  | dot | bar =>
    rw [serialised_single, serialised_single]
    apply String.toList_inj.1
    rw [toList_columnLine, toList_columnLine]
    simp [Column.key]

/-- Two columns that each make up a layout of their own have one table, one key and one
    definition. -/
theorem single_of_layout_eq {c d : Column}
    (h : (ofRows schema capturedAt [c]).layout = (ofRows schema' capturedAt' [d]).layout) :
    c.table = d.table ∧ c.key = d.key ∧ c.definition = d.definition := by
  have htable : (ofRows schema capturedAt [c]).layout.tables.contains c.table = true :=
    (hasTable_ofRows_iff schema capturedAt [c] c.table).2 ⟨c, List.mem_singleton_self c, rfl⟩
  rw [h] at htable
  obtain ⟨r, hr, hsame⟩ := (hasTable_ofRows_iff schema' capturedAt' [d] c.table).1 htable
  obtain ⟨r', hr', hkey⟩ :=
    exists_key_of_definitions (congrArg Layout.definitions h) (List.mem_singleton_self c)
  rw [List.mem_singleton.1 hr] at hsame
  rw [List.mem_singleton.1 hr'] at hkey
  -- under the key that they share there is one definition in either layout
  have hdefinition := get?_definitions_ofRows schema capturedAt [c] c.key
  rw [h, get?_definitions_ofRows] at hdefinition
  simp only [List.reverse_singleton, List.find?_singleton, hkey, beq_self_eq_true, if_true,
    Option.map_some, Option.some.injEq] at hdefinition
  exact ⟨hsame.symm, hkey.symm, hdefinition.symm⟩

/-- Their layouts differ. -/
theorem Misread.layout_ne (h : Misread rows rows') :
    (ofRows schema capturedAt rows).layout ≠ (ofRows schema' capturedAt' rows').layout := by
  intro hlayout
  have hdefinitions := congrArg Layout.definitions hlayout
  cases h with
  | @dot a b c dataType nullable default =>
    have hclash : Column.Clashes ⟨a ++ "." ++ b, c, dataType, nullable, default⟩
        ⟨a, b ++ "." ++ c, dataType, nullable, default⟩ := ⟨b, rfl, rfl⟩
    exact hclash.table_ne (single_of_layout_eq hlayout).1
  | bar =>
    have hlength := congrArg (fun d => d.dataType.length) (single_of_layout_eq hlayout).2.2
    have hbar : "|".length = 1 := rfl
    simp only [Column.definition, String.length_append] at hlength
    omega
  | @lineBreak c d hlt =>
    -- the second column is gone
    obtain ⟨r, hr, hkey⟩ :=
      exists_key_of_definitions hdefinitions (List.mem_cons_of_mem c (List.mem_singleton_self d))
    rw [List.mem_singleton.1 hr] at hkey
    have hsame : c.key = d.key := hkey
    rw [hsame] at hlt
    exact String.lt_irrefl _ hlt
  | @colon c d hlt =>
    -- the first column is gone
    obtain ⟨r, hr, hkey⟩ :=
      exists_key_of_definitions hdefinitions (List.mem_cons_self (a := c) (l := [d]))
    rw [List.mem_singleton.1 hr] at hkey
    have hlength := congrArg String.length hkey
    have hcolon : ":".length = 1 := rfl
    simp only [Column.key, String.length_append] at hlength
    omega

/-- **Rows with a border that was moved have one checksum, whatever the digest, and differ.** -/
theorem Misread.blind (h : Misread rows rows') (digest : Digest)
    (schema capturedAt capturedAt' : String) :
    (ofRows schema capturedAt rows).checksum digest
        = (ofRows schema capturedAt' rows').checksum digest ∧
      diff (ofRows schema capturedAt rows) (ofRows schema capturedAt' rows')
        ≠ [.unchanged schema] := by
  refine ⟨congrArg digest h.same_text, ?_⟩
  rw [ne_eq, diff_unchanged_iff]
  exact h.layout_ne

end

end Snapshot

end ScriptGate.Schema
