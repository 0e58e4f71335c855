/-
  ScriptGate.Proofs.Wire.Change — which JSON values are read as changes.

  Reading is said once, field by field: a column has five fields of fixed types, a change has a kind
  and a detail, and the detail goes by the kind.  Fields of other names are not looked at, at any
  depth, so a value that is written stays readable when it gains some; and a field that is missing,
  is there twice or has a value of another type leaves nothing to read, for the entry and for the
  whole list.
  Main statements:
    - `column?_eq_some_iff`, `change?_eq_some_iff` — what is read as a column and as a change;
    - `change?_widened`    — a change is read from its JSON form with more fields in it;
    - `change?_faulty`     — nothing is read from an entry with a fault;
    - `changes_survive`    — lists of changes survive their JSON form.
-/
import Mathlib.Data.List.Forall2
import ScriptGate.Wire.Schema

namespace ScriptGate.Wire

open ScriptGate.Schema

/-! ## §1. Columns -/

/-- The value is read as the column: an object that holds its five fields, each of them once, or
    the list of their values. -/
inductive ColumnOf (c : Column) : Json → Prop where
  | fields {fields} : Json.named "table" fields = [.text c.table] →
      Json.named "column" fields = [.text c.column] →
      Json.named "type" fields = [.text c.dataType] →
      Json.named "nullable" fields = [.bool c.nullable] →
      Json.named "defaultValue" fields = [.text c.default] → ColumnOf c (.object fields)
  | values : ColumnOf c
      (.array [.text c.table, .text c.column, .text c.dataType, .bool c.nullable, .text c.default])

theorem text?_eq_some_iff {j : Json} {s : String} : j.text? = some s ↔ j = .text s := by
  cases j <;> simp [Json.text?]

theorem bool?_eq_some_iff {j : Json} {b : Bool} : j.bool? = some b ↔ j = .bool b := by
  cases j <;> simp [Json.bool?]

theorem columnOf?_eq_some_iff {table column dataType nullable default : Json} {c : Column} :
    columnOf? table column dataType nullable default = some c ↔
      table = .text c.table ∧ column = .text c.column ∧ dataType = .text c.dataType ∧
        nullable = .bool c.nullable ∧ default = .text c.default := by
  simp only [columnOf?, Option.bind_eq_bind, Option.bind_eq_some_iff, text?_eq_some_iff,
    bool?_eq_some_iff]
  constructor
  · rintro ⟨t, rfl, n, rfl, d, rfl, b, rfl, v, rfl, h⟩
    cases h
    exact ⟨rfl, rfl, rfl, rfl, rfl⟩
  · rintro ⟨rfl, rfl, rfl, rfl, rfl⟩
    exact ⟨_, rfl, _, rfl, _, rfl, _, rfl, _, rfl, rfl⟩

/-- **What is read as a column.** -/
theorem column?_eq_some_iff {j : Json} {c : Column} : column? j = some c ↔ ColumnOf c j := by
  constructor
  · intro h
    unfold column? at h
    split at h
    case h_1 =>
      obtain ⟨rfl, rfl, rfl, rfl, rfl⟩ := columnOf?_eq_some_iff.1 h
      exact .values
    case h_2 => cases h
    case h_3 =>
      simp only [Option.bind_eq_bind, Option.bind_eq_some_iff] at h
      obtain ⟨t, ht, n, hn, d, hd, b, hb, v, hv, h⟩ := h
      obtain ⟨rfl, rfl, rfl, rfl, rfl⟩ := columnOf?_eq_some_iff.1 h
      cases j with
      | object fields =>
        rw [Json.get?_eq_some_iff] at ht hn hd hb hv
        exact .fields ht hn hd hb hv
      | _ => cases ht
  · intro h
    cases h with
    | fields ht hn hd hb hv =>
      rw [← Json.get?_eq_some_iff] at ht hn hd hb hv
      simp only [column?, ht, hn, hd, hb, hv, Option.bind_eq_bind, Option.bind_some]
      exact columnOf?_eq_some_iff.2 ⟨rfl, rfl, rfl, rfl, rfl⟩
    | values => rfl

/-! ## §2. Changes -/

/-- The value names the kind: by its text, or by an object that gives the text to nothing. -/
def Names (kind : String) (j : Json) : Prop := j = .text kind ∨ j = .object [(kind, .null)]

/-- The value is read as the detail of the change. -/
inductive DetailOf : Change → Json → Prop where
  | tableAdded {t} : DetailOf (.tableAdded t) (.text t)
  | tableRemoved {t} : DetailOf (.tableRemoved t) (.text t)
  | columnAdded {c j} : ColumnOf c j → DetailOf (.columnAdded c) j
  | columnRemoved {c j} : ColumnOf c j → DetailOf (.columnRemoved c) j
  | columnModified {before after pair b a} : Json.named "before" pair = [b] → ColumnOf before b →
      Json.named "after" pair = [a] → ColumnOf after a →
      DetailOf (.columnModified before after) (.object pair)
  | unchanged {schema fields} : Json.named "schema" fields = [.text schema] →
      DetailOf (.unchanged schema) (.object fields)

theorem kindName?_eq_some_iff {j : Json} {kind : String} :
    kindName? j = some kind ↔ Names kind j := by
  unfold kindName? Names
  split
  case h_1 s => simp
  case h_2 s => simp
  case h_3 htext hobject =>
    refine iff_of_false nofun ?_
    rintro (rfl | rfl)
    · exact htext _ rfl
    · exact hobject _ rfl

theorem changeOf?_eq_some_iff {kind : String} {detail : Json} {c : Change} :
    changeOf? kind detail = some c ↔ kind = changeKind c ∧ DetailOf c detail := by
  constructor
  · intro h
    -- one case for each kind there is, and one for all other texts
    unfold changeOf? at h
    split at h
    case h_1 =>
      obtain ⟨t, ht, rfl⟩ := Option.map_eq_some_iff.1 h
      obtain rfl := text?_eq_some_iff.1 ht
      exact ⟨rfl, .tableAdded⟩
    case h_2 =>
      obtain ⟨t, ht, rfl⟩ := Option.map_eq_some_iff.1 h
      obtain rfl := text?_eq_some_iff.1 ht
      exact ⟨rfl, .tableRemoved⟩
    case h_3 =>
      obtain ⟨column, hcolumn, rfl⟩ := Option.map_eq_some_iff.1 h
      exact ⟨rfl, .columnAdded (column?_eq_some_iff.1 hcolumn)⟩
    case h_4 =>
      obtain ⟨column, hcolumn, rfl⟩ := Option.map_eq_some_iff.1 h
      exact ⟨rfl, .columnRemoved (column?_eq_some_iff.1 hcolumn)⟩
    case h_5 =>
      simp only [Option.bind_eq_bind, Option.bind_eq_some_iff] at h
      obtain ⟨b, hb, before, hbefore, a, ha, after, hafter, h⟩ := h
      cases h
      cases detail with
      | object pair =>
        exact ⟨rfl, .columnModified (Json.get?_eq_some_iff.1 hb) (column?_eq_some_iff.1 hbefore)
          (Json.get?_eq_some_iff.1 ha) (column?_eq_some_iff.1 hafter)⟩
      | _ => cases hb
    case h_6 =>
      obtain ⟨s, hs, h⟩ := Option.bind_eq_some_iff.1 h
      obtain ⟨schema, hschema, rfl⟩ := Option.map_eq_some_iff.1 h
      obtain rfl := text?_eq_some_iff.1 hschema
      cases detail with
      | object fields => exact ⟨rfl, .unchanged (Json.get?_eq_some_iff.1 hs)⟩
      | _ => cases hs
    case h_7 => cases h
  · rintro ⟨rfl, h⟩
    cases h with
    | tableAdded | tableRemoved => rfl
    | columnAdded h | columnRemoved h =>
      exact Option.map_eq_some_iff.2 ⟨_, column?_eq_some_iff.2 h, rfl⟩
    | columnModified hb hbefore ha hafter =>
      rw [← Json.get?_eq_some_iff] at hb ha
      simp only [changeKind, changeOf?, hb, ha, column?_eq_some_iff.2 hbefore,
        column?_eq_some_iff.2 hafter, Option.bind_eq_bind, Option.bind_some]
      rfl
    | unchanged hs =>
      rw [← Json.get?_eq_some_iff] at hs
      simp only [changeKind, changeOf?, hs]
      rfl

/-- **What is read as a change**, of an object. -/
theorem change?_eq_some_iff {fields : List (String × Json)} {c : Change} :
    change? (.object fields) = some c ↔
      (∃ k, Json.named "kind" fields = [k] ∧ Names (changeKind c) k) ∧
        ∃ detail, Json.named "detail" fields = [detail] ∧ DetailOf c detail := by
  simp only [change?, Json.get?_eq_some_iff, Option.bind_eq_bind, Option.bind_eq_some_iff,
    kindName?_eq_some_iff, changeOf?_eq_some_iff]
  constructor
  · rintro ⟨k, hk, kind, hnames, detail, hdetail, rfl, hof⟩
    exact ⟨⟨k, hk, hnames⟩, detail, hdetail, hof⟩
  · rintro ⟨⟨k, hk, hnames⟩, detail, hdetail, hof⟩
    exact ⟨k, hk, _, hnames, detail, hdetail, rfl, hof⟩

/-! ## §3. More fields -/

/-- `wider` is the value with fields added to its objects, at any depth, under names that these
    objects do not have: a field that is the only one of its name is the only one of it there,
    widened, whatever else the object comes to hold. -/
inductive Widens : Json → Json → Prop where
  | same (j) : Widens j j
  | items {items wider} : List.Forall₂ Widens items wider → Widens (.array items) (.array wider)
  | fields {known wider} (value : String → Json) :
      (∀ name j, Json.named name known = [j] → Json.named name wider = [value name]) →
      (∀ name j, Json.named name known = [j] → Widens j (value name)) →
      Widens (.object known) (.object wider)

namespace Widens

theorem text {s : String} {j : Json} (h : Widens (.text s) j) : j = .text s := by
  cases h
  rfl

theorem bool {b : Bool} {j : Json} (h : Widens (.bool b) j) : j = .bool b := by
  cases h
  rfl

/-- An object with more fields is an object that still holds its own. -/
theorem object {known : List (String × Json)} {j : Json} (h : Widens (.object known) j) :
    ∃ wider, j = .object wider ∧ ∀ name v, Json.named name known = [v] →
      ∃ v', Json.named name wider = [v'] ∧ Widens v v' := by
  cases h with
  | same => exact ⟨known, rfl, fun name v hv => ⟨v, hv, .same v⟩⟩
  | fields value hnamed hwidens =>
    exact ⟨_, rfl, fun name v hv => ⟨value name, hnamed name v hv, hwidens name v hv⟩⟩

/-- A list with more fields in its items. -/
theorem array {items : List Json} {j : Json} (h : Widens (.array items) j) :
    ∃ wider, j = .array wider ∧ List.Forall₂ Widens items wider := by
  cases h with
  | same => exact ⟨items, rfl, List.forall₂_same.2 fun item _ => .same item⟩
  | items hitems => exact ⟨_, rfl, hitems⟩

theorem fields_cons (name : String) {j j' : Json} (h : Widens j j')
    {rest rest' : List (String × Json)}
    (hrest : List.Forall₂ (fun f f' => f.1 = f'.1 ∧ Widens f.2 f'.2) rest rest') :
    List.Forall₂ (fun f f' => f.1 = f'.1 ∧ Widens f.2 f'.2) ((name, j) :: rest)
      ((name, j') :: rest') :=
  .cons ⟨rfl, h⟩ hrest

/-- Objects with the same names, the values of the second one widened. -/
theorem named_widened {known known' : List (String × Json)}
    (h : List.Forall₂ (fun f f' => f.1 = f'.1 ∧ Widens f.2 f'.2) known known') (name : String) :
    List.Forall₂ Widens (Json.named name known) (Json.named name known') := by
  induction h with
  | nil => exact .nil
  | @cons f f' rest rest' hf _ ih =>
    obtain ⟨hname, hwidens⟩ := hf
    rw [Json.named_cons, Json.named_cons, ← hname]
    by_cases hsame : f.1 = name
    · rw [if_pos hsame, if_pos hsame]
      exact .cons hwidens ih
    · rw [if_neg hsame, if_neg hsame]
      exact ih

/-- **Fields of other names may be added**, in front of the fields and behind them. -/
theorem among (front behind : List (String × Json)) {known known' : List (String × Json)}
    (h : List.Forall₂ (fun f f' => f.1 = f'.1 ∧ Widens f.2 f'.2) known known')
    (hother : ∀ f ∈ known, Json.named f.1 front = [] ∧ Json.named f.1 behind = []) :
    Widens (.object known) (.object (front ++ known' ++ behind)) := by
  have hfound : ∀ name j, Json.named name known = [j] →
      ∃ j', Json.named name (front ++ known' ++ behind) = [j'] ∧ Widens j j' := by
    intro name j hj
    have hmem : (name, j) ∈ known := Json.mem_named.1 (hj ▸ List.mem_singleton_self j)
    obtain ⟨hfront, hbehind⟩ := hother _ hmem
    have hnamed := named_widened h name
    rw [hj] at hnamed
    obtain ⟨j', rest, hwidens, hrest, hj'⟩ := List.forall₂_cons_left_iff.1 hnamed
    obtain rfl := List.forall₂_nil_left_iff.1 hrest
    refine ⟨j', ?_, hwidens⟩
    rw [Json.named_append, Json.named_append, hfront, hbehind, hj']
    rfl
  -- each field has the value that is found, whatever the others are
  refine .fields
    (fun name => ((Json.object (front ++ known' ++ behind)).get? name).getD .null) ?_ ?_
  · intro name j hj
    obtain ⟨j', hj', _⟩ := hfound name j hj
    rw [Json.get?_eq_some_iff.2 hj']
    exact hj'
  · intro name j hj
    obtain ⟨j', hj', hwidens⟩ := hfound name j hj
    rw [Json.get?_eq_some_iff.2 hj']
    exact hwidens

end Widens

theorem columnOf_widened {c : Column} {j : Json} (h : Widens (columnJson c) j) : ColumnOf c j := by
  obtain ⟨fields, rfl, hfields⟩ := h.object
  obtain ⟨_, ht, hwidens⟩ := hfields "table" _ rfl
  obtain rfl := hwidens.text
  obtain ⟨_, hn, hwidens⟩ := hfields "column" _ rfl
  obtain rfl := hwidens.text
  obtain ⟨_, hd, hwidens⟩ := hfields "type" _ rfl
  obtain rfl := hwidens.text
  obtain ⟨_, hb, hwidens⟩ := hfields "nullable" _ rfl
  obtain rfl := hwidens.bool
  obtain ⟨_, hv, hwidens⟩ := hfields "defaultValue" _ rfl
  obtain rfl := hwidens.text
  exact .fields ht hn hd hb hv

theorem detailOf_widened {c : Change} {j : Json} (h : Widens (changeDetail c) j) :
    DetailOf c j := by
  cases c with
  | tableAdded t =>
    obtain rfl := h.text
    exact .tableAdded
  | tableRemoved t =>
    obtain rfl := h.text
    exact .tableRemoved
  | columnAdded c => exact .columnAdded (columnOf_widened h)
  | columnRemoved c => exact .columnRemoved (columnOf_widened h)
  | columnModified before after =>
    obtain ⟨pair, rfl, hpair⟩ := h.object
    obtain ⟨b, hb, hbefore⟩ := hpair "before" _ rfl
    obtain ⟨a, ha, hafter⟩ := hpair "after" _ rfl
    exact .columnModified hb (columnOf_widened hbefore) ha (columnOf_widened hafter)
  | unchanged schema =>
    obtain ⟨fields, rfl, hfields⟩ := h.object
    obtain ⟨_, hs, hwidens⟩ := hfields "schema" _ rfl
    obtain rfl := hwidens.text
    exact .unchanged hs

/-- **A change is read from its JSON form with more fields in it.** -/
theorem change?_widened {c : Change} {j : Json} (h : Widens (changeJson c) j) :
    change? j = some c := by
  obtain ⟨fields, rfl, hfields⟩ := h.object
  obtain ⟨_, hkind, hwidens⟩ := hfields "kind" _ rfl
  obtain rfl := hwidens.text
  obtain ⟨detail, hdetail, hwidens⟩ := hfields "detail" _ rfl
  exact change?_eq_some_iff.2
    ⟨⟨_, hkind, .inl rfl⟩, detail, hdetail, detailOf_widened hwidens⟩

/-! ## §4. Faults -/

/-- Is it a text? -/
def isText : Json → Bool
  | .text _ => true
  | _ => false

/-- Is it a truth value? -/
def isTruth : Json → Bool
  | .bool _ => true
  | _ => false

/-- The fields of a column, with their types. -/
def columnFields : List (String × (Json → Bool)) := [
  ("table", isText), ("column", isText), ("type", isText), ("nullable", isTruth),
  ("defaultValue", isText)]

/-- One of the five fields of a column is missing or there more than once, or has a value of
    another type. -/
inductive Broken (fields : List (String × Json)) : Prop where
  | count {field} : field ∈ columnFields → (Json.named field.1 fields).length ≠ 1 → Broken fields
  | mistyped {field j} : field ∈ columnFields → j ∈ Json.named field.1 fields →
      field.2 j = false → Broken fields

/-- The entry is an object with a fault. -/
inductive Faulty : Json → Prop where
  /-- without a kind, or with more than one -/
  | kinds {fields} : (Json.named "kind" fields).length ≠ 1 → Faulty (.object fields)
  /-- of a kind that there is not -/
  | unknown {fields k} : k ∈ Json.named "kind" fields → (∀ c, ¬ Names (changeKind c) k) →
      Faulty (.object fields)
  /-- without a detail, or with more than one -/
  | details {fields} : (Json.named "detail" fields).length ≠ 1 → Faulty (.object fields)
  /-- about a column that is broken -/
  | column {fields k kind column} : k ∈ Json.named "kind" fields → Names kind k →
      kind ∈ ["column_added", "column_removed"] →
      .object column ∈ Json.named "detail" fields → Broken column → Faulty (.object fields)
  /-- about a pair with one side missing, or there more than once -/
  | half {fields k pair side} : k ∈ Json.named "kind" fields → Names "column_modified" k →
      .object pair ∈ Json.named "detail" fields → side ∈ ["before", "after"] →
      (Json.named side pair).length ≠ 1 → Faulty (.object fields)
  /-- about a pair with a side that is broken -/
  | side {fields k pair side column} : k ∈ Json.named "kind" fields →
      Names "column_modified" k → .object pair ∈ Json.named "detail" fields →
      side ∈ ["before", "after"] → .object column ∈ Json.named side pair → Broken column →
      Faulty (.object fields)

/-- A value names one kind. -/
theorem names_unique {j : Json} {kind kind' : String} (h : Names kind j) (h' : Names kind' j) :
    kind = kind' := by
  rcases h with rfl | rfl <;> rcases h' with h' | h' <;> cases h' <;> rfl

/-- No column is read from fields that are broken. -/
theorem not_columnOf_broken {c : Column} {fields : List (String × Json)} (h : Broken fields) :
    ¬ ColumnOf c (.object fields) := by
  rintro ⟨ht, hn, hd, hb, hv⟩
  -- a column that is read has all five fields, each of its type
  have hall : ∀ field ∈ columnFields, ∃ j, Json.named field.1 fields = [j] ∧ field.2 j = true := by
    intro field hfield
    simp only [columnFields, List.mem_cons, List.not_mem_nil, or_false] at hfield
    rcases hfield with rfl | rfl | rfl | rfl | rfl
    · exact ⟨_, ht, rfl⟩
    · exact ⟨_, hn, rfl⟩
    · exact ⟨_, hd, rfl⟩
    · exact ⟨_, hb, rfl⟩
    · exact ⟨_, hv, rfl⟩
  cases h with
  | count hfield hcount =>
    obtain ⟨j, hj, _⟩ := hall _ hfield
    exact hcount (congrArg List.length hj)
  | mistyped hfield hj htype =>
    obtain ⟨j', hj', htype'⟩ := hall _ hfield
    rw [hj', List.mem_singleton] at hj
    rw [hj, htype'] at htype
    cases htype

/-- A pair that is read holds both sides. -/
theorem side_of_detailOf {before after : Column} {pair : List (String × Json)}
    (h : DetailOf (.columnModified before after) (.object pair)) {side : String}
    (hside : side ∈ ["before", "after"]) :
    ∃ j c, Json.named side pair = [j] ∧ ColumnOf c j := by
  cases h with
  | columnModified hb hbefore ha hafter =>
    rcases List.mem_pair.1 hside with rfl | rfl
    · exact ⟨_, _, hb, hbefore⟩
    · exact ⟨_, _, ha, hafter⟩

/-- A change of this kind is a modified column. -/
theorem eq_columnModified {c : Change} (h : changeKind c = "column_modified") :
    ∃ before after, c = .columnModified before after := by
  cases c with
  | columnModified before after => exact ⟨before, after, rfl⟩
  | _ => exact absurd h (by simp [changeKind])

/-- What is read is of the kind that the object names, and from the detail that it holds. -/
theorem kind_and_detail {fields : List (String × Json)} {c : Change} {k detail : Json}
    {kind : String} (h : change? (.object fields) = some c) (hk : k ∈ Json.named "kind" fields)
    (hnames : Names kind k) (hdetail : detail ∈ Json.named "detail" fields) :
    changeKind c = kind ∧ DetailOf c detail := by
  obtain ⟨⟨k', hk', hnames'⟩, detail', hdetail', hof⟩ := change?_eq_some_iff.1 h
  rw [hk', List.mem_singleton] at hk
  rw [hdetail', List.mem_singleton] at hdetail
  subst hk hdetail
  exact ⟨names_unique hnames' hnames, hof⟩

/-- **Nothing is read from an entry with a fault.** -/
theorem change?_faulty {j : Json} (h : Faulty j) : change? j = none := by
  rw [Option.eq_none_iff_forall_ne_some]
  intro c hc
  cases h with
  | kinds hcount =>
    obtain ⟨⟨k, hk, _⟩, _⟩ := change?_eq_some_iff.1 hc
    exact hcount (congrArg List.length hk)
  | unknown hk hunknown =>
    obtain ⟨⟨k, hk', hnames⟩, _⟩ := change?_eq_some_iff.1 hc
    rw [hk', List.mem_singleton] at hk
    subst hk
    exact hunknown c hnames
  | details hcount =>
    obtain ⟨_, detail, hdetail, _⟩ := change?_eq_some_iff.1 hc
    exact hcount (congrArg List.length hdetail)
  | column hk hnames hkind hdetail hbroken =>
    obtain ⟨rfl, hof⟩ := kind_and_detail hc hk hnames hdetail
    cases hof with
    | columnAdded h | columnRemoved h => exact not_columnOf_broken hbroken h
    | columnModified | unchanged => exact absurd hkind (by simp [changeKind])
  -- a modified column is read from both of its sides
  | half hk hnames hdetail hside hcount =>
    obtain ⟨hmodified, hof⟩ := kind_and_detail hc hk hnames hdetail
    obtain ⟨before, after, rfl⟩ := eq_columnModified hmodified
    obtain ⟨j, _, hj, _⟩ := side_of_detailOf hof hside
    exact hcount (congrArg List.length hj)
  | side hk hnames hdetail hside hcolumn hbroken =>
    obtain ⟨hmodified, hof⟩ := kind_and_detail hc hk hnames hdetail
    obtain ⟨before, after, rfl⟩ := eq_columnModified hmodified
    obtain ⟨j, c, hj, hof⟩ := side_of_detailOf hof hside
    rw [hj, List.mem_singleton] at hcolumn
    subst hcolumn
    exact not_columnOf_broken hbroken hof

/-! ## §5. Lists of changes -/

/-- The JSON form of a list of changes. -/
def changesJson (found : List Change) : Json := .array (found.map changeJson)

/-- A list is read entry by entry. -/
theorem mapM_eq_some_iff {f : Json → Option Change} {items : List Json} :
    ∀ {found : List Change}, items.mapM f = some found ↔
      List.Forall₂ (fun j c => f j = some c) items found := by
  induction items with
  | nil =>
    intro found
    rw [List.mapM_nil, List.forall₂_nil_left_iff]
    exact ⟨fun h => (Option.some.inj h).symm, fun h => congrArg some h.symm⟩
  | cons j rest ih =>
    intro found
    simp only [List.mapM_cons, Option.bind_eq_bind, Option.bind_eq_some_iff]
    constructor
    · rintro ⟨c, hc, later, hlater, h⟩
      cases h
      exact .cons hc (ih.1 hlater)
    · rintro (_ | ⟨hc, hlater⟩)
      exact ⟨_, hc, _, ih.2 hlater, rfl⟩

theorem changes?_array {items : List Json} {found : List Change} :
    changes? (.array items) = some found ↔
      List.Forall₂ (fun j c => change? j = some c) items found :=
  mapM_eq_some_iff

theorem exists_of_mem {R : Json → Change → Prop} {items : List Json} {found : List Change}
    (h : List.Forall₂ R items found) {j : Json} (hj : j ∈ items) : ∃ c, R j c := by
  induction h with
  | nil => cases hj
  | cons hc _ ih =>
    rcases List.mem_cons.1 hj with rfl | hj
    · exact ⟨_, hc⟩
    · exact ih hj

/-- **Lists of changes survive their JSON form.**  A list is read back from its JSON form, also
    after fields of other names have been added to any of its objects.  Writing a list that was
    read makes a form that reads as the same list.  And one entry with a fault spoils the list. -/
theorem changes_survive :
    (∀ found, changes? (changesJson found) = some found) ∧
    (∀ found j, Widens (changesJson found) j → changes? j = some found) ∧
    (∀ j found, changes? j = some found → changes? (changesJson found) = some found) ∧
    (∀ items, (∃ entry ∈ items, Faulty entry) → changes? (.array items) = none) := by
  have hwider : ∀ found j, Widens (changesJson found) j → changes? j = some found := by
    intro found j h
    obtain ⟨wider, rfl, hitems⟩ := h.array
    rw [changes?_array]
    rw [List.forall₂_map_left_iff] at hitems
    exact hitems.flip.imp fun j c h => change?_widened h
  -- the form itself is one to which nothing was added
  have hback : ∀ found, changes? (changesJson found) = some found :=
    fun found => hwider found _ (.same _)
  refine ⟨hback, hwider, fun _ found _ => hback found, ?_⟩
  rintro items ⟨entry, hentry, hfaulty⟩
  rw [Option.eq_none_iff_forall_ne_some]
  intro found hread
  obtain ⟨c, hc⟩ := exists_of_mem (changes?_array.1 hread) hentry
  rw [change?_faulty hfaulty] at hc
  cases hc

/-- A column of a table. -/
def someColumn : Column := ⟨"t", "c", "text", true, ""⟩

/-- Its fields as they are written. -/
def writtenFields : List (String × Json) := [
  ("table", .text "t"), ("column", .text "c"), ("type", .text "text"), ("nullable", .bool true),
  ("defaultValue", .text "")]

/-- The JSON form of an entry, with a field in front of those of a column and one more, given
    twice, in the pair. -/
def noted : Json := .object [("kind", .text "column_modified"), ("detail", .object [
  ("before", .object (("comment", .null) :: writtenFields)),
  ("after", .object writtenFields), ("by", .text "me"), ("by", .text "you")])]

/-- An entry about a column that says twice whether it may be null. -/
def undecided : Json := .object [("kind", .text "column_added"),
  ("detail", .object (("nullable", .bool false) :: writtenFields))]

theorem widens_noted : Widens (changeJson (.columnModified someColumn someColumn)) noted := by
  have hcolumn : Widens (.object writtenFields) (.object (("comment", .null) :: writtenFields)) :=
    Widens.among [("comment", .null)] [] (List.forall₂_same.2 fun f _ => ⟨rfl, .same f.2⟩)
      (by simp [writtenFields, Json.named])
  have hsides := Widens.fields_cons "before" hcolumn
    (Widens.fields_cons "after" (.same (.object writtenFields)) .nil)
  have hpair := Widens.among [] [("by", .text "me"), ("by", .text "you")] hsides
    (by simp [Json.named])
  have hentry := Widens.fields_cons "kind" (.same (.text "column_modified"))
    (Widens.fields_cons "detail" hpair .nil)
  exact Widens.among [] [] hentry fun _ _ => ⟨rfl, rfl⟩

/-- The first entry is read as if the fields of other names were not there, and the second one
    spoils the list. -/
theorem noted_read :
    (Widens (changesJson [.columnModified someColumn someColumn]) (.array [noted]) ∧
      changes? (.array [noted]) = some [.columnModified someColumn someColumn]) ∧
    ((∃ entry ∈ [noted, undecided], Faulty entry) ∧
      changes? (.array [noted, undecided]) = none) := by
  obtain ⟨_, hwider, _, hspoilt⟩ := changes_survive
  have hnoted : Widens (changesJson [.columnModified someColumn someColumn]) (.array [noted]) :=
    .items (.cons widens_noted .nil)
  have hbroken : Broken (("nullable", .bool false) :: writtenFields) :=
    .count (show ("nullable", isTruth) ∈ columnFields by simp [columnFields])
      (by simp [writtenFields, Json.named])
  have hfaulty : ∃ entry ∈ [noted, undecided], Faulty entry :=
    ⟨undecided, by simp, .column (Json.mem_named.2 (by simp)) (.inl rfl)
      (show "column_added" ∈ _ by simp) (Json.mem_named.2 (by simp)) hbroken⟩
  exact ⟨⟨hnoted, hwider _ _ hnoted⟩, hfaulty, hspoilt _ hfaulty⟩

end ScriptGate.Wire
