/-
  ScriptGate.Proofs.Backup.Separation — whether a copy of a schema stays apart from the schema.

  The schema that copies go to is named after the source, with an ending behind it.  A name has
  room for sixty-three bytes, and the database takes a quoted identifier for what of it fits, so
  the ending counts only as far as there is room behind the name of the source.  The tables that
  are dropped, made and filled are read off the statements that are put to the database.
  Main statements:
    - `denoted_append_eq_iff` — an ending is lost exactly where the name leaves no room for it;
    - `copy_logged`           — a copy puts its plan to the database up to the first failure;
    - `copy_spares_iff`       — the tables of the source are spared exactly where there is room.
-/
import ScriptGate.Proofs.Backup.Calls
import ScriptGate.Proofs.Schema.Layout
import ScriptGate.Proofs.Sql.Quoting

namespace ScriptGate.Sql.Written

/-! ## §1. The name that a quoted identifier stands for -/

/-- How many bytes a name has room for. -/
def nameRoom : Nat := 63

/-- How many bytes a text takes. -/
def byteSize : List Char → Nat
  | [] => 0
  | c :: rest => c.utf8Size + byteSize rest

/-- The first characters of a text, as many as fit into this many bytes. -/
def fitting : Nat → List Char → List Char
  | _, [] => []
  | room, c :: rest =>
    if c.utf8Size ≤ room then c :: fitting (room - c.utf8Size) rest else []

/-- The name that the database takes a quoted identifier for. -/
def denoted (name : List Char) : List Char := fitting nameRoom name

theorem byteSize_cons (c : Char) (rest : List Char) :
    byteSize (c :: rest) = c.utf8Size + byteSize rest := rfl

theorem byteSize_eq (cs : List Char) : byteSize cs = cs.utf8Encode.size := by
  induction cs with
  | nil => rfl
  | cons c rest ih =>
    rw [byteSize_cons, ih, List.utf8Encode_cons, ByteArray.size_append,
      List.utf8Encode_singleton, List.size_toByteArray, String.length_utf8EncodeChar]

theorem byteSize_toList (s : String) : byteSize s.toList = s.utf8ByteSize := by
  rw [byteSize_eq, String.utf8Encode_toList, String.size_toByteArray]

/-- A text that fits is kept, and what stands behind it has the room that is left. -/
theorem fitting_append {name : List Char} (ending : List Char) :
    ∀ {room : Nat}, byteSize name ≤ room →
      fitting room (name ++ ending) = name ++ fitting (room - byteSize name) ending := by
  induction name with
  | nil => exact fun _ => rfl
  | cons c rest ih =>
    intro room h
    rw [byteSize_cons] at h
    have hc : c.utf8Size ≤ room := by omega
    rw [List.cons_append, fitting, if_pos hc, ih (by omega), byteSize_cons, Nat.sub_add_eq,
      List.cons_append]

/-- A text that does not fit hides what stands behind it. -/
theorem fitting_append_of_lt {name : List Char} (ending : List Char) :
    ∀ {room : Nat}, room < byteSize name → fitting room (name ++ ending) = fitting room name := by
  induction name with
  | nil => exact fun h => absurd h (Nat.not_lt_zero _)
  | cons c rest ih =>
    intro room h
    rw [byteSize_cons] at h
    rw [List.cons_append, fitting, fitting]
    by_cases hc : c.utf8Size ≤ room
    · rw [if_pos hc, if_pos hc, ih (by omega)]
    · rw [if_neg hc, if_neg hc]

theorem fitting_eq_self {name : List Char} {room : Nat} (h : byteSize name ≤ room) :
    fitting room name = name := by
  have happend := fitting_append [] h
  rw [List.append_nil] at happend
  rw [happend, fitting, List.append_nil]

/-- **An ending is lost exactly where the name in front of it leaves no room for it.** -/
theorem denoted_append_eq_iff (name : List Char) {c : Char} (hc : c.utf8Size = 1)
    (rest : List Char) : denoted (name ++ c :: rest) = denoted name ↔ nameRoom ≤ byteSize name := by
  unfold denoted
  by_cases h : byteSize name ≤ nameRoom
  · rw [fitting_append _ h, fitting_eq_self h, List.append_right_eq_self, fitting]
    -- one byte is enough for a character of the ending to show
    by_cases hroom : c.utf8Size ≤ nameRoom - byteSize name
    · rw [if_pos hroom]
      simp only [List.cons_ne_nil, false_iff]
      omega
    · rw [if_neg hroom]
      simp only [true_iff]
      omega
  · rw [fitting_append_of_lt _ (Nat.lt_of_not_le h)]
    simp only [true_iff]
    omega

/-! ## §2. The table that a statement writes to -/

/-- Reads a quoted identifier off the front of a text. -/
def nameOff? : List Char → Option (List Char × List Char)
  | '"' :: rest => bodyOff? rest
  | _ => none

/-- Reads a schema and a table off the front of a text. -/
def tableOff? (text : List Char) : Option (List Char × List Char) :=
  match nameOff? text with
  | some (schema, '.' :: rest) => (nameOff? rest).map fun (table, _) => (schema, table)
  | _ => none

/-- What stands in front of a table that is dropped, made or filled. -/
def writings : List (List Char) :=
  ["DROP TABLE IF EXISTS ".toList, "CREATE TABLE ".toList, "INSERT INTO ".toList]

/-- The table behind this text, if a statement begins with it. -/
def tableBehind? (front statement : List Char) : Option (List Char × List Char) :=
  if front.isPrefixOf statement then tableOff? (statement.drop front.length) else none

/-- The schema and the table that a statement drops, makes or fills. -/
def target? (statement : List Char) : Option (List Char × List Char) :=
  writings.findSome? (tableBehind? · statement)

theorem nameOff?_quoted (name : List Char) {behind : List Char} (h : behind.head? ≠ some '"') :
    nameOff? (quoted name ++ behind) = some (name, behind) := by
  have hsplit : quoted name ++ behind = '"' :: (doubled name ++ '"' :: behind) := by
    simp [quoted]
  rw [hsplit]
  exact bodyOff?_doubled name h

/-- A qualified name is read off the front of a text, unless a quote follows it. -/
theorem tableOff?_qualified (schema table : List Char) {behind : List Char}
    (h : behind.head? ≠ some '"') :
    tableOff? (qualified schema table ++ behind) = some (schema, table) := by
  have hpoint : ('.' :: (quoted table ++ behind)).head? ≠ some '"' := by
    rw [List.head?_cons]
    decide
  unfold tableOff? qualified
  rw [List.append_assoc, List.cons_append, nameOff?_quoted schema hpoint]
  show (nameOff? (quoted table ++ behind)).map (fun (table, _) => (schema, table)) = _
  rw [nameOff?_quoted table h]
  rfl

theorem tableBehind?_append (front rest : List Char) :
    tableBehind? front (front ++ rest) = tableOff? rest := by
  unfold tableBehind?
  rw [if_pos (List.isPrefixOf_iff_prefix.2 (List.prefix_append front rest)), List.drop_left]

/-- A statement does not begin with two texts that differ where both have something. -/
theorem tableBehind?_apart {front other : List Char} (h : ¬ front <+: other)
    (h' : ¬ other <+: front) (rest : List Char) : tableBehind? front (other ++ rest) = none := by
  unfold tableBehind?
  refine if_neg fun hfront => ?_
  rcases List.prefix_or_prefix_of_prefix (List.isPrefixOf_iff_prefix.1 hfront)
    (List.prefix_append other rest) with hle | hle
  · exact h hle
  · exact h' hle

/-- A search finds what it would find at the only place where it finds anything. -/
theorem findSome?_of_only {items : List α} {a : α} {f : α → Option β} (ha : a ∈ items)
    (h : ∀ b ∈ items, b ≠ a → f b = none) : items.findSome? f = f a := by
  cases hf : f a with
  | none =>
    refine List.findSome?_eq_none_iff.2 fun b hb => ?_
    by_cases hba : b = a
    · rw [hba, hf]
    · exact h b hb hba
  | some found =>
    have hsome : (items.findSome? f).isSome = true :=
      List.findSome?_isSome_iff.2 ⟨a, ha, by rw [hf]; rfl⟩
    obtain ⟨other, hother⟩ := Option.isSome_iff_exists.1 hsome
    obtain ⟨b, hb, hfb⟩ := List.exists_of_findSome?_eq_some hother
    by_cases hba : b = a
    · rw [hother, ← hfb, hba, hf]
    · rw [h b hb hba] at hfb
      cases hfb

/-- Behind what stands in front of it, a table is read. -/
theorem target?_append {front : List Char} (h : front ∈ writings) (rest : List Char) :
    target? (front ++ rest) = tableOff? rest := by
  have hapart : ∀ other ∈ writings, other ≠ front → tableBehind? other (front ++ rest) = none := by
    intro other hother hne
    -- none of the fronts begins with another, so the search cannot stop at a wrong one
    have hpairs : ∀ a ∈ writings, ∀ b ∈ writings, a ≠ b → ¬ a <+: b := by decide +kernel
    exact tableBehind?_apart (hpairs other hother front h hne)
      (hpairs front h other hother (Ne.symm hne)) rest
  unfold target?
  rw [findSome?_of_only h hapart, tableBehind?_append]

/-- Making a schema writes to no table. -/
theorem target?_createSchema (schema : List Char) : target? (createSchema schema) = none := by
  unfold target? createSchema
  refine List.findSome?_eq_none_iff.2 fun front hfront => ?_
  have hfronts : ∀ front ∈ writings, ¬ front <+: "CREATE SCHEMA IF NOT EXISTS ".toList ∧
      ¬ "CREATE SCHEMA IF NOT EXISTS ".toList <+: front := by decide +kernel
  exact tableBehind?_apart (hfronts front hfront).1 (hfronts front hfront).2 _

/-- Plain text that does not begin with a quote ends the name in front of it. -/
theorem head?_append_ne (front : List Char) (hne : front ≠ []) (h : front.head? ≠ some '"')
    (back : List Char) : (front ++ back).head? ≠ some '"' := by
  rwa [List.head?_append_of_ne_nil _ hne]

/-- Every statement that copies a table writes to the copy of it. -/
theorem target?_of_mem_copyTable {target source : List Char} {table : String}
    {statement : List Char} (h : statement ∈ Backup.copyTable target source table) :
    target? statement = some (target, table.toList) := by
  -- the copy is named right behind what is done to it
  have hread {front : List Char} (hfront : front ∈ writings) (behind : List Char)
      (hbehind : behind.head? ≠ some '"') :
      target? (front ++ (qualified target table.toList ++ behind))
        = some (target, table.toList) := by
    rw [target?_append hfront, tableOff?_qualified target table.toList hbehind]
  simp only [Backup.copyTable, List.mem_cons, List.not_mem_nil, or_false] at h
  rcases h with rfl | rfl | rfl
  · have hdrop := hread List.mem_cons_self [] (by decide)
    rw [List.append_nil] at hdrop
    exact hdrop
  · have hlike := head?_append_ne " (LIKE ".toList (by decide +kernel)
      (by decide +kernel) (qualified source table.toList ++ " INCLUDING ALL)".toList)
    unfold createTableLike
    rw [List.append_assoc, List.append_assoc, List.append_assoc]
    exact hread (List.mem_cons_of_mem _ List.mem_cons_self) _ hlike
  · have hselect := head?_append_ne " SELECT * FROM ".toList (by decide +kernel)
      (by decide +kernel) (qualified source table.toList)
    unfold copyRows
    rw [List.append_assoc, List.append_assoc]
    exact hread (List.mem_cons_of_mem _ (List.mem_cons_of_mem _ List.mem_cons_self)) _ hselect

end ScriptGate.Sql.Written

namespace ScriptGate.Backup

open ScriptGate.Sql.Written

/-! ## §3. What a copy asks of the database -/

/-- The statements that a copy has planned once it knows the tables. -/
def planned (db : Database σ) (schema : String) (s : σ) : List (List Char) :=
  match (db.columns schema s).1 with
  | .ok columns => plan schema (tablesOf columns)
  | .error _ => []

/-- **A copy asks for the tables and puts its plan to the database, up to the first failure.** -/
theorem copy_logged (db : Database σ) (schema : String) (s : σ) :
    ∃ ran unrun, planned db schema s = ran ++ unrun ∧
      (copy db.logged schema (s, [])).2.2.reverse
        = .columns schema :: ran.map Database.Call.execute ∧
      ((copy db.logged schema (s, [])).1.isOk = true → unrun = []) := by
  have hasked : db.logged.columns schema (s, [])
      = ((db.columns schema s).1, ((db.columns schema s).2, [.columns schema])) := rfl
  unfold planned
  rw [copy_eq, hasked]
  rcases db.columns schema s with ⟨fault | columns, s₁⟩
  · exact ⟨[], [], rfl, rfl, fun _ => rfl⟩
  · obtain ⟨made, ending, s₂, hcourse, -, hlog⟩ :=
      executeAll_course db (plan schema (tablesOf columns)) s₁ [.columns schema]
    obtain ⟨unmade, hsplit, hend⟩ := hcourse.exists_append
    obtain ⟨ran, unrun, hplan, rfl, rfl⟩ := List.map_eq_append_iff.1 hsplit
    refine ⟨ran, unrun, hplan, ?_, fun hok => ?_⟩
    · dsimp only
      rw [hlog, List.reverse_append, List.reverse_reverse]
      rfl
    · -- what a fault is called does not make it a success
      dsimp only at hok
      rw [hlog] at hok
      cases ending with
      | none => exact List.map_eq_nil_iff.1 (hend rfl)
      | some fault => cases hok

/-! ## §4. The source and its copy -/

/-- The table that a call of the database drops, makes or fills. -/
def target? : Database.Call → Option (List Char × List Char)
  | .execute sql | .counted sql => Sql.Written.target? sql
  | .columns _ | .query .. => none

/-- Does a call write to a table of the schema that the database knows by this name? -/
def writesTo (schema : String) (call : Database.Call) : Bool :=
  (target? call).any fun table => denoted table.1 == denoted schema.toList

/-- The ending that makes a copy another schema is lost where the source leaves no room for it. -/
theorem denoted_copySchema_iff (schema : String) :
    denoted (copySchema schema).toList = denoted schema.toList ↔ 63 ≤ schema.utf8ByteSize := by
  rw [copySchema, String.toList_append, ← byteSize_toList]
  exact denoted_append_eq_iff schema.toList (c := '_') (by decide) "backup".toList

theorem mem_plan {schema : String} {tables : List String} {statement : List Char} :
    statement ∈ plan schema tables ↔ statement = createSchema (copySchema schema).toList ∨
      ∃ table ∈ tables,
        statement ∈ copyTable (copySchema schema).toList schema.toList table := by
  rw [plan, List.mem_cons, List.mem_flatMap]

/-- Whatever is planned writes to the schema that is named after the source. -/
theorem target?_of_mem_planned {db : Database σ} {schema : String} {s : σ}
    {statement : List Char} (h : statement ∈ planned db schema s) {table : List Char × List Char}
    (ht : Sql.Written.target? statement = some table) :
    table.1 = (copySchema schema).toList := by
  unfold planned at h
  split at h
  · rcases mem_plan.1 h with rfl | ⟨_, _, hstatement⟩
    · rw [target?_createSchema] at ht
      cases ht
    · rw [target?_of_mem_copyTable hstatement] at ht
      cases ht
      rfl
  · exact absurd h List.not_mem_nil

/-- So does every call that a copy makes of the database. -/
theorem target?_of_mem_calls {db : Database σ} {schema : String} {s : σ} {call : Database.Call}
    (h : call ∈ (copy db.logged schema (s, [])).2.2.reverse) {table : List Char × List Char}
    (ht : target? call = some table) : table.1 = (copySchema schema).toList := by
  obtain ⟨ran, unrun, hplanned, hcalls, -⟩ := copy_logged db schema s
  rw [hcalls] at h
  rcases List.mem_cons.1 h with rfl | h
  · cases ht
  · obtain ⟨statement, hstatement, rfl⟩ := List.mem_map.1 h
    have hmem : statement ∈ planned db schema s := by
      rw [hplanned]
      exact List.mem_append_left unrun hstatement
    exact target?_of_mem_planned hmem ht

/-- A call that writes to a table writes to the source where the two names come to the same. -/
theorem writesTo_iff {db : Database σ} {schema : String} {s : σ} {call : Database.Call}
    (h : call ∈ (copy db.logged schema (s, [])).2.2.reverse) :
    writesTo schema call = true ↔ 63 ≤ schema.utf8ByteSize ∧ target? call ≠ none := by
  unfold writesTo
  cases ht : target? call with
  | none => simp
  | some table =>
    rw [Option.any_some, beq_iff_eq, target?_of_mem_calls h ht, denoted_copySchema_iff]
    simp

/-- **The source is spared exactly where its name leaves room for the ending.**  All that a copy
    drops, makes or fills is in the schema that is named after the source.  For the database that
    is another schema than the source if and only if the name of the source takes less than
    sixty-three bytes; where it takes as many or more, every such statement writes to a table of
    the source.  A copy that succeeds has dropped, made and filled each of the tables. -/
theorem copy_spares_iff (db : Database σ) (schema : String) (s : σ) :
    let r := copy db.logged schema (s, [])
    let calls := r.2.2.reverse
    (∀ call ∈ calls, ∀ table, target? call = some table →
      table.1 = (copySchema schema).toList) ∧
    (denoted (copySchema schema).toList ≠ denoted schema.toList ↔ schema.utf8ByteSize < 63) ∧
    ((∀ call ∈ calls, writesTo schema call = false) ↔
      schema.utf8ByteSize < 63 ∨ ∀ call ∈ calls, target? call = none) ∧
    (r.1.isOk = true → ∀ columns, (db.columns schema s).1 = .ok columns →
      ∀ c ∈ columns, ∀ statement ∈ copyTable (copySchema schema).toList schema.toList c.table,
        .execute statement ∈ calls) := by
  intro r calls
  refine ⟨fun call hcall table => target?_of_mem_calls hcall, ?_, ?_, ?_⟩
  · rw [ne_eq, denoted_copySchema_iff, Nat.not_le]
  · -- whether the name leaves room is the same for all calls
    have hspared : ∀ call ∈ calls, (writesTo schema call = false ↔
        schema.utf8ByteSize < 63 ∨ target? call = none) := by
      intro call hcall
      rw [Bool.eq_false_iff, ne_eq, writesTo_iff hcall, not_and_or, Nat.not_le, not_not]
    rw [forall₂_congr hspared]
    by_cases hroom : schema.utf8ByteSize < 63
    · simp only [hroom, true_or, implies_true]
    · simp only [hroom, false_or]
  · intro hok columns hcolumns c hc statement hstatement
    obtain ⟨ran, unrun, hplanned, hcalls, hend⟩ := copy_logged db schema s
    rw [hend hok, List.append_nil] at hplanned
    show _ ∈ (copy db.logged schema (s, [])).2.2.reverse
    rw [hcalls]
    refine List.mem_cons_of_mem _ (List.mem_map_of_mem ?_)
    rw [← hplanned, planned, hcolumns]
    refine mem_plan.2 (.inr ⟨c.table, ?_, hstatement⟩)
    rw [tablesOf, Collection.SortedMap.mem_names, Collection.contains_ofNames,
      List.contains_iff_mem]
    exact List.mem_map_of_mem hc

/-- A database with one table that does all that it is asked to. -/
def obliging : Database Unit where
  ask
    | .columns _ => return .ok [⟨"t", "c", "text", true, ""⟩]
    | .execute _ => return .ok ()
    | .counted _ => return .ok (0 : UInt64)
    | .query .. => return .ok []

/-- A name that takes all the room that there is. -/
def longestName : String := String.ofList (List.replicate 63 'a')

/-- Where the name of the source takes all the room, its table is dropped. -/
theorem longest_name_overwritten :
    let calls := (copy obliging.logged longestName ((), [])).2.2.reverse
    let drop := .execute (dropTableIfExists (copySchema longestName).toList "t".toList)
    longestName.utf8ByteSize = 63 ∧ drop ∈ calls ∧ writesTo longestName drop = true := by
  intro calls drop
  have hsize : longestName.utf8ByteSize = 63 := by decide +kernel
  have hfirst : dropTableIfExists (copySchema longestName).toList "t".toList ∈
      copyTable (copySchema longestName).toList longestName.toList "t" := List.mem_cons_self
  obtain ⟨-, -, -, hcopied⟩ := copy_spares_iff obliging longestName ()
  have hdrop : drop ∈ calls := hcopied rfl _ rfl _ List.mem_cons_self _ hfirst
  refine ⟨hsize, hdrop, (writesTo_iff hdrop).2 ⟨hsize.ge, ?_⟩⟩
  rw [show target? drop = _ from target?_of_mem_copyTable hfirst]
  exact Option.some_ne_none _

end ScriptGate.Backup
