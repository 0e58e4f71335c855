/-
  ScriptGate.Proofs.Backup.Course — how far a copy of a schema gets.

  A copy asks for the columns of the schema, makes the schema beside it, and drops, makes and fills
  each of the tables, one after the other in the order of their names.  The database may answer
  every call from a state of its own; at the first call that fails the copy ends.  Which calls it
  has made by then, and what it tells, is known for every such point.
  Main statements:
    - `bytes_lt`            — texts are in the order of their bytes;
    - `inOrder_tablesOf`    — the tables that are copied, each once and in order;
    - `copy_course`         — the calls of a copy, what comes of it, and whether a deployment gets
                              its backup from it.
-/
import Mathlib.Tactic.SplitIfs
import ScriptGate.Deployment.Workflow
import ScriptGate.Proofs.Backup.Calls
import ScriptGate.Proofs.Schema.Layout
import ScriptGate.Text.Utf8

namespace ScriptGate.Text.Utf8

/-! ## §1. The order of texts -/

/-- Lists of bytes are compared at their first byte and then behind it. -/
theorem cons_ofNat_lt_iff {m n : Nat} (hm : m < 256) (hn : n < 256) (xs ys : List UInt8) :
    UInt8.ofNat m :: xs < UInt8.ofNat n :: ys ↔ m < n ∨ m = n ∧ xs < ys := by
  rw [List.cons_lt_cons_iff, UInt8.lt_iff_toNat_lt, ← UInt8.toNat_inj, UInt8.toNat_ofNat',
    UInt8.toNat_ofNat', Nat.mod_eq_of_lt hm, Nat.mod_eq_of_lt hn]

/-- A smaller number has the smaller digit where the two differ first, to the base of sixty-four. -/
theorem digit_lt {v w : Nat} (h : v < w) :
    v / 64 / 64 / 64 < w / 64 / 64 / 64 ∨ v / 64 / 64 / 64 = w / 64 / 64 / 64 ∧
      (v / 64 / 64 % 64 < w / 64 / 64 % 64 ∨ v / 64 / 64 % 64 = w / 64 / 64 % 64 ∧
        (v / 64 % 64 < w / 64 % 64 ∨ v / 64 % 64 = w / 64 % 64 ∧ v % 64 < w % 64)) := by
  have hsplit : ∀ m n : Nat, m < n → m / 64 < n / 64 ∨ m / 64 = n / 64 ∧ m % 64 < n % 64 := by
    omega
  rcases hsplit v w h with h₁ | ⟨h₁, hdigit⟩
  · rcases hsplit _ _ h₁ with h₂ | ⟨h₂, hdigit⟩
    · rcases hsplit _ _ h₂ with h₃ | ⟨h₃, hdigit⟩
      · exact .inl h₃
      · exact .inr ⟨h₃, .inl hdigit⟩
    · rw [h₂]
      exact .inr ⟨rfl, .inr ⟨rfl, .inl hdigit⟩⟩
  · rw [h₁]
    exact .inr ⟨rfl, .inr ⟨rfl, .inr ⟨rfl, hdigit⟩⟩⟩

/-- The bytes of a smaller character come first, whatever stands behind the two. -/
theorem encode_append_lt {a b : Char} (h : a < b) (xs ys : List UInt8) :
    String.utf8EncodeChar a ++ xs < String.utf8EncodeChar b ++ ys := by
  have hbound : b.val.toNat < 0x110000 := by
    have hvalid := b.valid
    unfold UInt32.isValidChar Nat.isValidChar at hvalid
    omega
  have hlt : a.val.toNat < b.val.toNat := UInt32.lt_iff_toNat_lt.1 h
  have hdigit := digit_lt hlt
  unfold String.utf8EncodeChar
  generalize a.val.toNat = v at hlt hdigit ⊢
  generalize b.val.toNat = w at hlt hbound hdigit ⊢
  have hparts : ∀ n : Nat, n / 4096 = n / 64 / 64 ∧ n / 262144 = n / 64 / 64 / 64 := by omega
  dsimp only
  simp only [hparts]
  -- characters that take more bytes have the greater front byte
  split_ifs <;>
    simp (disch := omega) only [List.cons_append, List.nil_append, cons_ofNat_lt_iff] <;> omega

/-- **Texts are in the order of their bytes.** -/
theorem bytes_lt {s t : List Char} (h : s < t) : bytes s < bytes t := by
  unfold bytes
  rw [← List.lex_lt] at h
  induction h with
  | @nil b ys =>
    obtain ⟨x, xs, hbytes⟩ := List.exists_cons_of_ne_nil (String.utf8EncodeChar_ne_nil (c := b))
    rw [List.flatMap_cons, hbytes]
    exact List.nil_lt_cons _ _
  | cons h ih =>
    rw [List.flatMap_cons, List.flatMap_cons]
    exact List.append_left_lt ih
  | rel h => exact encode_append_lt h _ _

end ScriptGate.Text.Utf8

namespace ScriptGate.Backup

open ScriptGate.Collection ScriptGate.Deployment ScriptGate.Schema ScriptGate.Sql.Written
  ScriptGate.Text

/-! ## §2. What is to be called for -/

/-- The calls for a copy of these tables. -/
def copyCalls (schema : String) (tables : List String) : List Database.Call :=
  .execute (createSchema (schema ++ "_backup").toList) :: tables.flatMap fun table =>
    [.execute (dropTableIfExists (schema ++ "_backup").toList table.toList),
      .execute (createTableLike (schema ++ "_backup").toList schema.toList table.toList),
      .execute (copyRows (schema ++ "_backup").toList schema.toList table.toList)]

/-- These are the tables of the columns, each once, in the order of the bytes of their names. -/
structure InOrder (columns : List Column) (tables : List String) : Prop where
  mem_iff : ∀ table, table ∈ tables ↔ ∃ c ∈ columns, c.table = table
  increasing : tables.Pairwise fun a b => Utf8.bytes a.toList < Utf8.bytes b.toList

/-- **The tables that are copied**, each once and in order. -/
theorem inOrder_tablesOf (columns : List Column) : InOrder columns (tablesOf columns) where
  mem_iff table := by
    rw [tablesOf, SortedMap.mem_names, contains_ofNames, List.contains_iff_mem, List.mem_map]
  increasing := (SortedMap.pairwise_names _).imp fun h => Utf8.bytes_lt h

/-- There is one such row of tables only. -/
theorem InOrder.eq_tablesOf {columns : List Column} {tables : List String}
    (h : InOrder columns tables) : tables = tablesOf columns := by
  have hsame := inOrder_tablesOf columns
  have hnodup {names : List String} (hnames : InOrder columns names) : names.Nodup := by
    refine hnames.increasing.imp fun {a b} hlt heq => ?_
    rw [heq] at hlt
    exact List.lt_irrefl _ hlt
  refine List.Perm.eq_of_pairwise (fun a b _ _ hab hba => ?_) h.increasing hsame.increasing
    ((List.perm_ext_iff_of_nodup (hnodup h) (hnodup hsame)).2 fun table => ?_)
  · exact absurd hba (List.lt_asymm hab)
  · rw [h.mem_iff, hsame.mem_iff]

/-- The calls for a copy are those for the statements of its plan. -/
theorem copyCalls_eq (schema : String) (tables : List String) :
    copyCalls schema tables = (plan schema tables).map Database.Call.execute := by
  unfold copyCalls plan
  rw [List.map_cons, List.map_flatMap]
  rfl

theorem length_copyCalls (schema : String) (tables : List String) :
    (copyCalls schema tables).length = 1 + 3 * tables.length := by
  rw [copyCalls_eq, List.length_map, plan_length, Nat.add_comm]

/-! ## §3. The course of a copy -/

/-- What a copy tells. -/
def told (schema : String) : Option Fault → Except Fault String
  | none => .ok (schema ++ "_backup")
  | some fault => .error (.backup fault.detail)

section

variable {db : Database σ} {schema : String} {s s₁ : σ}

/-- Without the columns a copy calls for nothing else. -/
theorem copy_unasked {fault : Fault} (h : db.columns schema s = (.error fault, s₁)) :
    copy db schema s = (.error fault, s₁) ∧
      copy db.logged schema (s, []) = (.error fault, (s₁, [.columns schema])) := by
  have hasked : db.logged.columns schema (s, [])
      = ((db.columns schema s).1, ((db.columns schema s).2, [Database.Call.columns schema])) := rfl
  rw [copy_eq, copy_eq, hasked, h]
  exact ⟨rfl, rfl⟩

/-- What a copy comes to once it knows the columns. -/
theorem copy_asked {columns : List Column} (h : db.columns schema s = (.ok columns, s₁)) :
    ∃ made ending s₂,
      db.Course (copyCalls schema (tablesOf columns)) s₁ made ending s₂ ∧
      copy db schema s = (told schema ending, s₂) ∧
      copy db.logged schema (s, [])
        = (told schema ending, (s₂, made.reverse ++ [.columns schema])) := by
  have hasked : db.logged.columns schema (s, [])
      = ((db.columns schema s).1, ((db.columns schema s).2, [Database.Call.columns schema])) := rfl
  obtain ⟨made, ending, s₂, hcourse, hrun, hlog⟩ :=
    executeAll_course db (plan schema (tablesOf columns)) s₁ [.columns schema]
  refine ⟨made, ending, s₂, by rw [copyCalls_eq]; exact hcourse, ?_⟩
  rw [copy_eq, copy_eq, hasked, h]
  dsimp only
  rw [hrun, hlog]
  cases ending <;> exact ⟨rfl, rfl⟩

end

/-- A log of its calls changes nothing of what a copy tells. -/
theorem copy_logged_fst (db : Database σ) (schema : String) (s : σ) :
    (copy db.logged schema (s, [])).1 = (copy db schema s).1 := by
  rcases hasked : db.columns schema s with ⟨fault | columns, s₁⟩
  · obtain ⟨hcopy, hlog⟩ := copy_unasked hasked
    rw [hcopy, hlog]
  · obtain ⟨made, ending, s₂, -, hcopy, hlog⟩ := copy_asked hasked
    rw [hcopy, hlog]

/-- All calls for a copy succeed. -/
def Completes (db : Database σ) (schema : String) (s : σ) : Prop :=
  ∃ columns tables s₁ s₂, db.columns schema s = (.ok columns, s₁) ∧ InOrder columns tables ∧
    db.Succeed (copyCalls schema tables) s₁ s₂

theorem told_eq_ok_iff {schema location : String} {ending : Option Fault} :
    told schema ending = .ok location ↔ location = schema ++ "_backup" ∧ ending = none := by
  cases ending with
  | none =>
    rw [told, Except.ok.injEq, eq_comm]
    exact (and_iff_left rfl).symm
  | some fault => exact iff_of_false nofun nofun

/-- **A copy tells where it is exactly if all calls for it succeed.** -/
theorem copy_eq_ok_iff (db : Database σ) (schema : String) (s : σ) (location : String) :
    (copy db schema s).1 = .ok location ↔
      location = schema ++ "_backup" ∧ Completes db schema s := by
  rcases hasked : db.columns schema s with ⟨fault | columns, s₁⟩
  · rw [(copy_unasked hasked).1]
    refine iff_of_false nofun ?_
    rintro ⟨-, columns, _, _, _, hcolumns, -⟩
    rw [hasked] at hcolumns
    cases hcolumns
  · obtain ⟨made, ending, s₂, hcourse, hcopy, -⟩ := copy_asked hasked
    -- none of the calls fails exactly if all succeed, for the tables of the columns
    rw [hcopy, told_eq_ok_iff, hcourse.eq_none_iff]
    refine and_congr_right fun _ => ⟨?_, ?_⟩
    · rintro ⟨t, hall⟩
      exact ⟨columns, tablesOf columns, s₁, t, hasked, inOrder_tablesOf columns, hall⟩
    · rintro ⟨columns', tables, s₁', t, hcolumns, horder, hall⟩
      rw [hasked] at hcolumns
      cases hcolumns
      rw [horder.eq_tablesOf] at hall
      exact ⟨t, hall⟩

/-- A validated deployment has its backup exactly if one was made. -/
theorem stage_backup (services : Services σ) (now : Moment) {w : Workflow}
    (hstage : w.stage = .validated) (s : σ) :
    (w.backup services now s).1.2.stage = .backupCreated ↔
      ∃ location, (services.backup s).1 = .ok location := by
  unfold Workflow.backup Workflow.tryBackup
  rw [if_neg (not_not_intro hstage)]
  simp only [bind, StateT.bind]
  rcases services.backup s with ⟨fault | location, s'⟩
  · refine iff_of_false ?_ (fun ⟨_, h⟩ => nomatch h)
    show ¬ w.stage = .backupCreated
    rw [hstage]
    decide
  · exact iff_of_true rfl ⟨location, rfl⟩

/-- **The course of a copy.**  It asks for the columns of the schema.  If these cannot be had it
    tells why and asks for nothing else.  Otherwise it makes the schema beside it, and drops, makes
    and fills each of the tables of the columns, in the order of the bytes of their names, up to the
    first call that fails; it tells where it is if none fails, and else the detail of the fault.
    A validated deployment gets its backup from a copy exactly if all calls for it succeed: one for
    the columns, one for the schema, and three for each of the tables. -/
theorem copy_course (db : Database σ) (schema : String) (s : σ) :
    let r := copy db.logged schema (s, [])
    let calls := r.2.2.reverse
    (match db.columns schema s with
      | (.error fault, s₁) => r.1 = .error fault ∧ calls = [.columns schema] ∧ r.2.1 = s₁
      | (.ok columns, s₁) => ∃ tables made ending s₂, InOrder columns tables ∧
        (copyCalls schema tables).length = 1 + 3 * tables.length ∧
        db.Course (copyCalls schema tables) s₁ made ending s₂ ∧
        calls = .columns schema :: made ∧ r.1 = told schema ending ∧ r.2.1 = s₂) ∧
    (r.1 = .ok (schema ++ "_backup") ↔ Completes db schema s) ∧
    ∀ (services : Services σ) (now : Moment) (w : Workflow),
      (Workflow.backup { services with backup := copy db schema } now
        { w with stage := .validated } s).1.2.stage = .backupCreated ↔ Completes db schema s := by
  intro r calls
  refine ⟨?_, ?_, fun services now w => ?_⟩
  · rcases hasked : db.columns schema s with ⟨fault | columns, s₁⟩
    · have hcopy : r = (.error fault, (s₁, [.columns schema])) := (copy_unasked hasked).2
      rw [show calls = r.2.2.reverse from rfl, hcopy]
      exact ⟨rfl, rfl, rfl⟩
    · obtain ⟨made, ending, s₂, hcourse, -, hlog⟩ := copy_asked hasked
      have hcopy : r = (told schema ending, (s₂, made.reverse ++ [.columns schema])) := hlog
      refine ⟨tablesOf columns, made, ending, s₂, inOrder_tablesOf columns,
        length_copyCalls _ _, hcourse, ?_⟩
      rw [show calls = r.2.2.reverse from rfl, hcopy, List.reverse_append, List.reverse_reverse]
      exact ⟨rfl, rfl, rfl⟩
  · have hsame : r.1 = (copy db schema s).1 := copy_logged_fst db schema s
    rw [hsame, copy_eq_ok_iff]
    exact and_iff_right rfl
  · rw [stage_backup _ now rfl s]
    show (∃ location, (copy db schema s).1 = .ok location) ↔ _
    simp only [copy_eq_ok_iff, exists_eq_left]

/-- A database with two tables in which one call fails. -/
def failingAt (place : Nat) : Database Nat where
  ask call := fun count =>
    (if count = place then .error (.internal "disk full")
    else match call with
      | .columns _ => .ok (["u", "a\"b", "u"].map fun table => ⟨table, "c", "text", true, ""⟩)
      | .execute _ => .ok ()
      | .counted _ => .ok (0 : UInt64)
      | .query .. => .ok [],
    count + 1)

/-- The first table is copied, and the second one is dropped and not made: there is no backup. -/
theorem second_table_not_made :
    let r := copy (failingAt 6).logged "s" (0, [])
    r.2.2.reverse = .columns "s" :: ([
      "CREATE SCHEMA IF NOT EXISTS \"s_backup\"",
      "DROP TABLE IF EXISTS \"s_backup\".\"a\"\"b\"",
      "CREATE TABLE \"s_backup\".\"a\"\"b\" (LIKE \"s\".\"a\"\"b\" INCLUDING ALL)",
      "INSERT INTO \"s_backup\".\"a\"\"b\" SELECT * FROM \"s\".\"a\"\"b\"",
      "DROP TABLE IF EXISTS \"s_backup\".\"u\"",
      "CREATE TABLE \"s_backup\".\"u\" (LIKE \"s\".\"u\" INCLUDING ALL)"].map
        fun sql => .execute sql.toList) ∧
    r.1 ≠ .ok "s_backup" ∧ ¬ Completes (failingAt 6) "s" 0 := by
  intro r
  obtain ⟨-, hmade, -⟩ := copy_course (failingAt 6) "s" 0
  have hfailed : r.1 ≠ .ok "s_backup" := by
    intro h
    have hnone : r.1.toOption = none := by decide +kernel
    rw [h] at hnone
    cases hnone
  exact ⟨by decide +kernel, hfailed, fun h => hfailed (hmade.2 h)⟩

end ScriptGate.Backup
