/-
  ScriptGate.Sql.Written — the statements that the tool writes itself.

  Names go in as quoted identifiers: between double quotes, with every double quote inside
  written twice.
  Main statements:
    - `unquoted?_quoted` — a name is read back from its quoted form;
    - `quoted_inj`       — so different names have different quoted forms.
-/
import ScriptGate.Text.Trim

namespace ScriptGate.Sql.Written

open ScriptGate.Text

/-! ## §1. Quoted identifiers -/

/-- A name with its double quotes doubled. -/
def doubled : List Char → List Char
  | [] => []
  | c :: rest => if c == '"' then '"' :: '"' :: doubled rest else c :: doubled rest

/-- A quoted identifier. -/
def quoted (name : List Char) : List Char := '"' :: doubled name ++ ['"']

/-- A table with its schema. -/
def qualified (schema table : List Char) : List Char := quoted schema ++ '.' :: quoted table

/-- Reads doubled text up to the closing quote; nothing may stand behind it. -/
def undoubled? : List Char → Option (List Char)
  | ['"'] => some []
  | '"' :: '"' :: rest => (undoubled? rest).map ('"' :: ·)
  | c :: rest => if c == '"' then none else (undoubled? rest).map (c :: ·)
  | [] => none

/-- The name that a quoted identifier stands for. -/
def unquoted? : List Char → Option (List Char)
  | '"' :: rest => undoubled? rest
  | _ => none

theorem undoubled?_doubled (name : List Char) : undoubled? (doubled name ++ ['"']) = some name := by
  induction name with
  | nil => rfl
  | cons c rest ih =>
    by_cases h : c = '"'
    · subst h; simp [doubled, undoubled?, ih]
    · have hc : (c == '"') = false := by simpa using h
      simp only [doubled, hc, Bool.false_eq_true, if_false, List.cons_append]
      rw [undoubled?.eq_3] <;> simp_all

/-- A name is read back from its quoted form. -/
theorem unquoted?_quoted (name : List Char) : unquoted? (quoted name) = some name := by
  simpa [quoted, unquoted?] using undoubled?_doubled name

/-- Different names have different quoted forms. -/
theorem quoted_inj {a b : List Char} (h : quoted a = quoted b) : a = b := by
  have := congrArg unquoted? h
  rwa [unquoted?_quoted, unquoted?_quoted, Option.some.injEq] at this

/-! ## §2. Copies of tables -/

/-- Makes a schema unless it is there. -/
def createSchema (schema : List Char) : List Char :=
  "CREATE SCHEMA IF NOT EXISTS ".toList ++ quoted schema

/-- Drops a table if it is there. -/
def dropTableIfExists (schema table : List Char) : List Char :=
  "DROP TABLE IF EXISTS ".toList ++ qualified schema table

/-- Makes a table with the structure of one in another schema. -/
def createTableLike (target source table : List Char) : List Char :=
  "CREATE TABLE ".toList ++ qualified target table ++ " (LIKE ".toList ++
    qualified source table ++ " INCLUDING ALL)".toList

/-- Copies the rows of a table from another schema. -/
def copyRows (target source table : List Char) : List Char :=
  "INSERT INTO ".toList ++ qualified target table ++ " SELECT * FROM ".toList ++
    qualified source table

/-! ## §3. Capped queries -/

/-- A query without the semicolons at its end. -/
def withoutTerminator (query : List Char) : List Char :=
  trimEnd (dropEndWhile (· == ';') (trim query))

/-- The first rows of a query, each as one JSON text. -/
def rowsAsJson (query : List Char) (limit : Nat) : List Char :=
  "SELECT row_to_json(preview_q)::text FROM (".toList ++ withoutTerminator query ++
    ") AS preview_q LIMIT ".toList ++ (toString limit).toList

end ScriptGate.Sql.Written
