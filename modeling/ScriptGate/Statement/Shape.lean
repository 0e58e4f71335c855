/-
  ScriptGate.Statement.Shape — the features of a statement that the review rules look at.

  A shape holds, for each kind, just the features its rules ask for.  It is found either in the
  parsed statement or, when the statement does not parse, by patterns over its text in capitals.
  Main statements:
    - `Shape.kind_ofText` — reading a shape off the text never contradicts the opening words.
-/
import ScriptGate.Statement.Kind

namespace ScriptGate.Statement

open ScriptGate.Text

/-! ## §1. Shapes -/

/-- Features of a query. -/
structure SelectShape where
  /-- an unqualified star in the projection -/
  wildcard : Bool := false
  /-- a star inside COUNT -/
  countStar : Bool := false
  /-- a FROM clause -/
  hasFrom : Bool := false
  /-- a WHERE clause -/
  hasWhere : Bool := false
  /-- a bound on the number of rows -/
  hasLimit : Bool := false
  /-- an ORDER BY clause -/
  hasOrderBy : Bool := false
  /-- number of joins -/
  joinCount : Nat := 0
  /-- number of subqueries -/
  subqueryCount : Nat := 0
  /-- DISTINCT -/
  distinct : Bool := false
  /-- a GROUP BY clause -/
  groupBy : Bool := false
deriving DecidableEq, Repr, Inhabited

/-- Features of an INSERT. -/
structure InsertShape where
  /-- the columns are named -/
  explicitColumns : Bool := false
  /-- number of VALUES rows; zero when the rows come from a query -/
  valueRows : Nat := 0
deriving DecidableEq, Repr, Inhabited

/-- Features of an UPDATE or a DELETE. -/
structure FilterShape where
  /-- a WHERE clause -/
  hasWhere : Bool := false
  /-- a bound on the number of rows -/
  hasLimit : Bool := false
deriving DecidableEq, Repr, Inhabited

/-- A statement by kind, with the features that kind's rules need. -/
inductive Shape where
  | select (s : SelectShape)
  | insert (s : InsertShape)
  | update (s : FilterShape)
  | delete (s : FilterShape)
  | alter
  | drop
  | truncate
  | createTable
  | unknown
deriving DecidableEq, Repr, Inhabited

/-- The kind of a shape. -/
def Shape.kind : Shape → Kind
  | .select _ => .select
  | .insert _ => .insert
  | .update _ => .update
  | .delete _ => .delete
  | .alter => .alter
  | .drop => .drop
  | .truncate => .truncate
  | .createTable => .createTable
  | .unknown => .unknown

/-- A kind together with the two clauses that every reader of an analysis asks for. -/
structure Classification where
  /-- what the statement does -/
  kind : Kind
  /-- a WHERE clause, for the kinds that may have one -/
  hasWhereClause : Bool
  /-- a bound on the number of rows, for the kinds that may have one -/
  hasLimitClause : Bool
deriving DecidableEq, Repr, Inhabited

/-- The classification of a shape. -/
def Shape.classification (shape : Shape) : Classification :=
  match shape with
  | .select s => ⟨shape.kind, s.hasWhere, s.hasLimit⟩
  | .update f | .delete f => ⟨shape.kind, f.hasWhere, f.hasLimit⟩
  | _ => ⟨shape.kind, false, false⟩

/-! ## §2. Patterns over capitals -/

def wherePattern : Pattern := .word "WHERE"
def fromPattern : Pattern := .word "FROM"
def limitPattern : Pattern := .word "LIMIT"
def joinPattern : Pattern := .word "JOIN"

/-- Two words with blanks between them. -/
def twoWords (a b : String) : Pattern :=
  .all [.wordEdge, .text a, .blanks, .text b, .wordEdge]

def orderByPattern : Pattern := twoWords "ORDER" "BY"
def groupByPattern : Pattern := twoWords "GROUP" "BY"
def distinctPattern : Pattern := twoWords "SELECT" "DISTINCT"

/-- An opening parenthesis before SELECT. -/
def subqueryPattern : Pattern :=
  .all [.text "(", .blanksOrNone, .text "SELECT", .wordEdge]

/-- A star right behind SELECT or SELECT DISTINCT. -/
def wildcardPattern : Pattern :=
  .all [.wordEdge, .text "SELECT", .blanks, .optional (.all [.text "DISTINCT", .blanks]),
    .text "*"]

/-- Part of a table name, schemas included. -/
def isTableNameChar (c : Char) : Bool := isWordChar c || c == '.'

/-- `INSERT INTO name (`. -/
def insertColumnsPattern : Pattern :=
  .all [.front, .blanksOrNone, .text "INSERT", .blanks, .text "INTO", .blanks,
    .run 1 isTableNameChar, .blanksOrNone, .text "("]

/-- A closing parenthesis, a comma and an opening parenthesis, between two rows of values. -/
def rowGapPattern : Pattern :=
  .all [.text ")", .blanksOrNone, .text ",", .blanksOrNone, .text "("]

/-- From the first occurrence of `needle` on. -/
def fromOccurrence? (needle : List Char) : List Char → Option (List Char)
  | [] => if needle.isEmpty then some [] else none
  | c :: rest =>
    if needle.isPrefixOf (c :: rest) then some (c :: rest) else fromOccurrence? needle rest

/-- Does `needle` occur in the text? -/
def containsText (needle text : List Char) : Bool := (fromOccurrence? needle text).isSome

/-! ## §3. A shape from the text -/

/-- Features of a query, read off its text. -/
def SelectShape.ofText (text : List Char) : SelectShape where
  wildcard := wildcardPattern.occurs text
  countStar := containsText "COUNT(*)".toList text
  hasFrom := fromPattern.occurs text
  hasWhere := wherePattern.occurs text
  hasLimit := limitPattern.occurs text
  hasOrderBy := orderByPattern.occurs text
  joinCount := joinPattern.count text
  subqueryCount := subqueryPattern.count text
  distinct := distinctPattern.occurs text
  groupBy := groupByPattern.occurs text

/-- Features of an INSERT, read off its text: behind VALUES there is one row more than there are
    gaps between rows. -/
def InsertShape.ofText (text : List Char) : InsertShape where
  explicitColumns := insertColumnsPattern.occurs text
  valueRows :=
    match fromOccurrence? "VALUES".toList text with
    | some rows => rowGapPattern.count rows + 1
    | none => 0

/-- Features of an UPDATE or a DELETE, read off its text. -/
def FilterShape.ofText (text : List Char) : FilterShape where
  hasWhere := wherePattern.occurs text
  hasLimit := limitPattern.occurs text

/-- The shape of a statement by its text in capitals. -/
def Shape.ofText (text : List Char) : Shape :=
  match Kind.ofText text with
  | .select => .select (.ofText text)
  | .insert => .insert (.ofText text)
  | .update => .update (.ofText text)
  | .delete => .delete (.ofText text)
  | .alter => .alter
  | .drop => .drop
  | .truncate => .truncate
  | .createTable => .createTable
  | .unknown => .unknown

/-- Reading a shape off the text never contradicts the opening words. -/
theorem Shape.kind_ofText (text : List Char) : (Shape.ofText text).kind = Kind.ofText text := by
  unfold Shape.ofText
  split <;> simp_all [Shape.kind]

end ScriptGate.Statement
