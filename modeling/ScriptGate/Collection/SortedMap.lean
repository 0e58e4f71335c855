/-
  ScriptGate.Collection.SortedMap — finite maps from names, listed in increasing order.

  Names are compared by code point, which is also the order of their UTF-8 forms.  The order is
  part of the type, so a map has one representation only.
  Main statements:
    - `get?_insert`  — an insertion shows at its own name and nowhere else;
    - `ext_get?`     — maps that answer every look-up alike are equal;
    - `mem_names`    — a name is listed exactly when it has a value.
-/

namespace ScriptGate.Collection

/-! ## §1. Lists of entries -/

/-- Puts a value under a name, in order, in place of what is there. -/
def putEntry (k : String) (v : α) : List (String × α) → List (String × α)
  | [] => [(k, v)]
  | (k', v') :: rest =>
    if k < k' then (k, v) :: (k', v') :: rest
    else if k = k' then (k, v) :: rest
    else (k', v') :: putEntry k v rest

/-- Strictly increasing names. -/
def Increasing (entries : List (String × α)) : Prop :=
  entries.Pairwise fun a b => a.1 < b.1

theorem mem_putEntry {k : String} {v : α} {e : String × α} {entries : List (String × α)}
    (h : e ∈ putEntry k v entries) : e = (k, v) ∨ e ∈ entries := by
  induction entries with
  | nil => simpa [putEntry] using h
  | cons hd tl ih =>
    obtain ⟨k', v'⟩ := hd
    rw [putEntry] at h
    split at h
    · simpa using h
    · split at h
      · rcases List.mem_cons.1 h with h | h
        · exact .inl h
        · exact .inr (List.mem_cons_of_mem _ h)
      · rcases List.mem_cons.1 h with h | h
        · exact .inr (h ▸ List.mem_cons_self)
        · exact (ih h).imp id (List.mem_cons_of_mem _)

theorem increasing_putEntry (k : String) (v : α) {entries : List (String × α)}
    (h : Increasing entries) : Increasing (putEntry k v entries) := by
  induction entries with
  | nil => exact List.pairwise_singleton _ _
  | cons hd tl ih =>
    obtain ⟨k', v'⟩ := hd
    have hhd := (List.pairwise_cons.1 h).1
    have htl : Increasing tl := (List.pairwise_cons.1 h).2
    rw [putEntry]
    split
    case isTrue hlt =>
      refine List.pairwise_cons.2 ⟨fun e he => ?_, h⟩
      rcases List.mem_cons.1 he with rfl | he
      · exact hlt
      · exact String.lt_trans hlt (hhd e he)
    case isFalse hlt =>
      split
      case isTrue heq => subst heq; exact List.pairwise_cons.2 ⟨hhd, htl⟩
      case isFalse hne =>
        refine List.pairwise_cons.2 ⟨fun e he => ?_, ih htl⟩
        rcases mem_putEntry he with rfl | he
        · exact Std.lt_of_le_of_ne (String.not_lt.1 hlt) (Ne.symm hne)
        · exact hhd e he

/-- The value under a name. -/
def findEntry (k : String) : List (String × α) → Option α
  | [] => none
  | (k', v) :: rest => if k = k' then some v else findEntry k rest

theorem findEntry_putEntry (k k' : String) (v : α) (entries : List (String × α)) :
    findEntry k' (putEntry k v entries) = if k' = k then some v else findEntry k' entries := by
  induction entries with
  | nil => simp [putEntry, findEntry]
  | cons hd tl ih =>
    obtain ⟨n, w⟩ := hd
    rw [putEntry]
    split
    · simp [findEntry]
    · split
      case isTrue heq => subst heq; by_cases h : k' = k <;> simp [findEntry, h]
      case isFalse hne =>
        by_cases h : k' = n
        · subst h; simp [findEntry, Ne.symm hne]
        · simp [findEntry, h, ih]

theorem findEntry_eq_none_of_lt {k : String} {entries : List (String × α)}
    (h : ∀ e ∈ entries, k < e.1) : findEntry k entries = none := by
  induction entries with
  | nil => rfl
  | cons hd tl ih =>
    have hlt := h hd List.mem_cons_self
    have hne : k ≠ hd.1 := fun he => String.lt_irrefl k (he ▸ hlt)
    simp only [findEntry, hne, if_false]
    exact ih fun e he => h e (List.mem_cons_of_mem _ he)

theorem findEntry_isSome_iff (k : String) (entries : List (String × α)) :
    (findEntry k entries).isSome = true ↔ k ∈ entries.map Prod.fst := by
  induction entries with
  | nil => simp [findEntry]
  | cons hd tl ih => by_cases h : k = hd.1 <;> simp_all [findEntry]

/-- Where two lists answer every look-up alike, the one does not begin in front of the other. -/
theorem not_lt_of_findEntry {x y : String × α} {xs ys : List (String × α)}
    (hy : ∀ e ∈ ys, y.1 < e.1) (h : ∀ k, findEntry k (x :: xs) = findEntry k (y :: ys)) :
    ¬ x.1 < y.1 := by
  intro hlt
  have hnone : findEntry x.1 (y :: ys) = none :=
    findEntry_eq_none_of_lt
      (List.forall_mem_cons.2 ⟨hlt, fun e he => String.lt_trans hlt (hy e he)⟩)
  rw [← h] at hnone
  simp [findEntry] at hnone

/-- Increasing lists that answer every look-up alike are equal. -/
theorem eq_of_findEntry {a b : List (String × α)} (ha : Increasing a) (hb : Increasing b)
    (h : ∀ k, findEntry k a = findEntry k b) : a = b := by
  induction a generalizing b with
  | nil =>
    cases b with
    | nil => rfl
    | cons hd tl => simpa [findEntry] using h hd.1
  | cons x xs ih =>
    cases b with
    | nil => simpa [findEntry] using h x.1
    | cons y ys =>
      have hx := (List.pairwise_cons.1 ha).1
      have hy := (List.pairwise_cons.1 hb).1
      -- a name at the front of one list cannot be missing in the other
      have hnames : x.1 = y.1 := by
        rcases Std.lt_trichotomy x.1 y.1 with hlt | heq | hgt
        · exact absurd hlt (not_lt_of_findEntry hy h)
        · exact heq
        · exact absurd hgt (not_lt_of_findEntry hx fun k => (h k).symm)
      have hvalues : x.2 = y.2 := by
        have := h x.1
        simpa [findEntry, hnames] using this
      have hrest : xs = ys := by
        refine ih (List.pairwise_cons.1 ha).2 (List.pairwise_cons.1 hb).2 fun k => ?_
        by_cases hk : k = x.1
        · subst hk
          rw [findEntry_eq_none_of_lt hx, findEntry_eq_none_of_lt (hnames ▸ hy)]
        · have := h k
          simpa [findEntry, hk, hnames ▸ hk] using this
      rw [hrest, show x = y from Prod.ext hnames hvalues]

/-! ## §2. Maps -/

/-- A finite map from names. -/
structure SortedMap (α : Type u) where
  /-- names with their values -/
  entries : List (String × α)
  /-- the names increase -/
  increasing : Increasing entries

namespace SortedMap

/-- The map without entries. -/
def empty : SortedMap α := ⟨[], List.Pairwise.nil⟩

/-- The map with this value under the name. -/
def insert (m : SortedMap α) (k : String) (v : α) : SortedMap α :=
  ⟨putEntry k v m.entries, increasing_putEntry k v m.increasing⟩

/-- The value under a name. -/
def get? (m : SortedMap α) (k : String) : Option α := findEntry k m.entries

/-- Has the name a value? -/
def contains (m : SortedMap α) (k : String) : Bool := (m.get? k).isSome

/-- The names, in increasing order. -/
def names (m : SortedMap α) : List String := m.entries.map Prod.fst

/-- The values, in the order of their names. -/
def values (m : SortedMap α) : List α := m.entries.map Prod.snd

/-- The map of a list of values, each under its own name; of several values of one name the last
    one counts. -/
def ofList (name : β → String) (value : β → α) (items : List β) : SortedMap α :=
  items.foldl (fun m b => m.insert (name b) (value b)) empty

@[simp] theorem get?_empty (k : String) : (empty : SortedMap α).get? k = none := rfl

/-- An insertion shows at its own name and nowhere else. -/
theorem get?_insert (m : SortedMap α) (k : String) (v : α) (k' : String) :
    (m.insert k v).get? k' = if k' = k then some v else m.get? k' :=
  findEntry_putEntry k k' v m.entries

/-- Maps that answer every look-up alike are equal. -/
theorem ext_get? {a b : SortedMap α} (h : ∀ k, a.get? k = b.get? k) : a = b := by
  obtain ⟨xs, hxs⟩ := a
  obtain ⟨ys, hys⟩ := b
  obtain rfl : xs = ys := eq_of_findEntry hxs hys h
  rfl

/-- A name is listed exactly when it has a value. -/
theorem mem_names (m : SortedMap α) (k : String) : k ∈ m.names ↔ m.contains k = true :=
  (findEntry_isSome_iff k m.entries).symm

/-- The names increase. -/
theorem pairwise_names (m : SortedMap α) : m.names.Pairwise (· < ·) :=
  List.pairwise_map.2 m.increasing

end SortedMap

/-! ## §3. Sets -/

/-- A finite set of names. -/
abbrev NameSet := SortedMap Unit

/-- The set of the names of a list. -/
def NameSet.ofNames (names : List String) : NameSet := SortedMap.ofList id (fun _ => ()) names

end ScriptGate.Collection
