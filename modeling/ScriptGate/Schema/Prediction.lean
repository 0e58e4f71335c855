/-
  ScriptGate.Schema.Prediction — what a script would do to a schema, without running it.

  Each statement is taken in capitals with single blanks, and the first form that it has decides.
  A table counts as present when its name in capitals is that of the statement's target, which may
  be given with a schema in front.
  Main statement:
    - `length_summarize` — a summary has at most eighty characters.
-/
import ScriptGate.Schema.Snapshot
import ScriptGate.Script.Scan
import ScriptGate.Text.Case
import ScriptGate.Text.Pattern
import ScriptGate.Text.Trim

namespace ScriptGate.Schema

open ScriptGate.Text ScriptGate.Script

/-! ## §1. Predictions -/

/-- One prediction.  Names are in capitals; `present` says whether the table is there. -/
inductive Prediction where
  | createTable (table : String) (present : Bool)
  | alterTable (table : String) (present : Bool)
  | addColumn (column table : String) (present : Bool)
  | insert (table : String) (present : Bool)
  | dropTable (table : String) (present : Bool)
  | select (table : String) (present : Bool)
  /-- `filtered` says whether a WHERE clause limits the rows -/
  | update (table : String) (present filtered : Bool)
  /-- `filtered` says whether a WHERE clause limits the rows -/
  | delete (table : String) (present filtered : Bool)
  /-- a statement that does not concern tables -/
  | other (summary : String)
deriving DecidableEq, Repr

/-- A name between back quotes. -/
def ticked (name : String) : String := "\x60" ++ name ++ "\x60"

/-- The prediction on a line of its own. -/
def Prediction.line : Prediction → String
  | createTable t true => s!"⚠️ Table {ticked t} already exists."
  | createTable t false => s!"✅ Table {ticked t} will be created."
  | alterTable t true => s!"✅ Table {ticked t} exists: checking columns..."
  | alterTable t false => s!"⚠️ ALTER TABLE failed: table {ticked t} not found."
  | addColumn c t true => s!"⚠️ Column {ticked c} already exists in {ticked t}."
  | addColumn c t false => s!"✅ Column {ticked c} will be added to {ticked t}."
  | insert t true => s!"✅ Data will be inserted into existing table {ticked t}."
  | insert t false => s!"⚠️ INSERT failed: table {ticked t} not found."
  | dropTable t true => s!"🟥 Table {ticked t} exists: this will drop it."
  | dropTable t false => s!"ℹ️ Table {ticked t} does not exist: DROP ignored."
  | select t true => s!"ℹ️ SELECT will read data from table {ticked t}."
  | select t false => s!"⚠️ SELECT references table {ticked t} that doesn't exist."
  | update t false _ => s!"⚠️ UPDATE failed: table {ticked t} not found."
  | update t true true => s!"🟡 UPDATE will modify matching records in {ticked t}."
  | update t true false => s!"⚠️ UPDATE in {ticked t} has no WHERE: all rows would be affected."
  | delete t false _ => s!"⚠️ DELETE failed: table {ticked t} not found."
  | delete t true true => s!"🟠 DELETE will remove matching rows from {ticked t}."
  | delete t true false => s!"⚠️ DELETE without WHERE: all rows in {ticked t} will be deleted."
  | other summary => s!"ℹ️ No schema-level operation detected in: {summary}"

/-! ## §2. The forms of statements -/

/-- Words with blanks between and behind them. -/
def phrase (words : List String) : Pattern :=
  .all (words.flatMap fun w => [.text w, .blanks])

/-- A name, with its schema perhaps. -/
def targetPattern : Pattern := .group (.run 1 fun c => isWordChar c || c == '.')

/-- CREATE TABLE. -/
def createTablePattern : Pattern :=
  .all [.front, phrase ["CREATE", "TABLE"], .optional (phrase ["IF", "NOT", "EXISTS"]),
    targetPattern]

/-- ALTER TABLE. -/
def alterTablePattern : Pattern :=
  .all [.front, phrase ["ALTER", "TABLE"], .optional (phrase ["IF", "EXISTS"]),
    .optional (phrase ["ONLY"]), targetPattern]

/-- INSERT INTO. -/
def insertPattern : Pattern := .all [.front, phrase ["INSERT", "INTO"], targetPattern]

/-- DROP TABLE. -/
def dropTablePattern : Pattern :=
  .all [.front, phrase ["DROP", "TABLE"], .optional (phrase ["IF", "EXISTS"]), targetPattern]

/-- SELECT, behind a WITH clause perhaps, up to the first FROM that names a table. -/
def selectPattern : Pattern :=
  .all [.front,
    .optional (.all [.text "WITH", .wordEdge, .shortRun (· != '\n'), .text ")", .blanksOrNone]),
    .text "SELECT", .one isBlank, .shortRun (· != '\n'), .wordEdge, phrase ["FROM"],
    targetPattern]

/-- UPDATE with a SET behind it. -/
def updatePattern : Pattern :=
  .all [.front, phrase ["UPDATE"], .optional (phrase ["ONLY"]), targetPattern, .one isBlank,
    .run 0 (· != '\n'), .word "SET"]

/-- DELETE FROM. -/
def deletePattern : Pattern :=
  .all [.front, phrase ["DELETE", "FROM"], .optional (phrase ["ONLY"]), targetPattern]

/-- ADD COLUMN, anywhere. -/
def addColumnPattern : Pattern :=
  .all [.wordEdge, phrase ["ADD", "COLUMN"], .optional (phrase ["IF", "NOT", "EXISTS"]),
    .group (.run 1 isWordChar)]

/-- WHERE, anywhere. -/
def wherePattern : Pattern := .word "WHERE"

/-! ## §3. Reading a statement -/

/-- One blank for every run of blanks. -/
def collapse : List Char → List Char := go false
where
  /-- `blank` says that the character just passed is a blank. -/
  go (blank : Bool) : List Char → List Char
    | [] => []
    | c :: rest =>
      if isBlank c then if blank then go true rest else ' ' :: go true rest
      else c :: go false rest

/-- A statement in capitals with single blanks. -/
def normalise (statement : List Char) : List Char := trim (collapse (upper statement))

/-- A name without the schema in front. -/
def unqualified (name : List Char) : List Char := (name.reverse.takeWhile (· != '.')).reverse

/-- Is there a table of this name in capitals? -/
def Snapshot.hasCapitals (s : Snapshot) (name : List Char) : Bool :=
  s.tables.names.any fun t => upper t.toList == unqualified name

/-- The columns, in capitals, of the table with this name in small letters. -/
def Snapshot.capitalColumns (s : Snapshot) (name : List Char) : List (List Char) :=
  (s.tableColumns (String.ofList (lower (unqualified name)))).map fun c => upper c.column.toList

/-- A statement, cut to eighty characters. -/
def summarize (statement : List Char) : List Char :=
  if statement.length > 80 then statement.take 77 ++ "...".toList else statement

/-- What the ADD COLUMN clauses of a statement would do. -/
def predictColumns (s : Snapshot) (table statement : List Char) : List Prediction :=
  let present := s.capitalColumns table
  (addColumnPattern.findAll statement).map fun m =>
    .addColumn (String.ofList m.group) (String.ofList table) (present.contains m.group)

/-- What a statement in capitals with single blanks would do. -/
def predictNormal (s : Snapshot) (statement : List Char) : List Prediction :=
  let about (t : List Char) (form : String → Bool → Prediction) : Prediction :=
    form (String.ofList t) (s.hasCapitals t)
  let filtered := wherePattern.occurs statement
  if let some t := createTablePattern.capture? statement then [about t .createTable]
  else if let some t := alterTablePattern.capture? statement then
    about t .alterTable :: if s.hasCapitals t then predictColumns s t statement else []
  else if let some t := insertPattern.capture? statement then [about t .insert]
  else if let some t := dropTablePattern.capture? statement then [about t .dropTable]
  else if let some t := selectPattern.capture? statement then [about t .select]
  else if let some t := updatePattern.capture? statement then [about t (.update · · filtered)]
  else if let some t := deletePattern.capture? statement then [about t (.delete · · filtered)]
  else [.other (String.ofList (summarize statement))]

/-- What one statement would do. -/
def predictStatement (s : Snapshot) (statement : List Char) : List Prediction :=
  predictNormal s (normalise statement)

/-- What a script would do. -/
def predict (s : Snapshot) (script : List Char) : List Prediction :=
  (fragments script).flatMap (predictStatement s)

/-! ## §4. Laws -/

/-- A summary has at most eighty characters. -/
theorem length_summarize (statement : List Char) : (summarize statement).length ≤ 80 := by
  rw [summarize]
  split
  · rw [List.length_append, List.length_take]
    have h : "...".toList.length = 3 := rfl
    omega
  · omega

end ScriptGate.Schema
