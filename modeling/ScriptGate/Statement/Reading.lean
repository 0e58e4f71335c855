/-
  ScriptGate.Statement.Reading — the shape of a statement that parses.

  A parser tells which statements a text holds.  What the review does with the answer is the same
  for every parser, so the parser is a parameter here.  The outline of a parsed statement says
  more than its text does; the few features it does not hold are read off the text.
  Main statements:
    - `read_parsed_iff`     — a reading is parsed exactly when the parser finds one statement;
    - `kind_ofOutline`      — the outline alone decides the kind, except for the statements that
                              it does not look into.
-/
import ScriptGate.Statement.Shape
import ScriptGate.Sql.Read

namespace ScriptGate.Statement

open ScriptGate.Text

/-! ## §1. Shapes of outlines -/

/-- The features of a query. -/
def SelectShape.ofQuery (query : Sql.Query) (text : List Char) : SelectShape :=
  let base :=
    match Shape.ofText text with
    | .select s => s
    | _ => {}
  let bounded := { base with hasOrderBy := query.ordered, hasLimit := query.limited }
  match query.body with
  | .select s =>
    { bounded with
      wildcard := s.wildcard
      hasFrom := !s.joins.isEmpty
      hasWhere := s.hasWhere
      distinct := s.distinct
      joinCount := s.joins.foldl (· + ·) 0 }
  | _ => bounded

/-- The shape of a statement by its outline; `text` is its text in capitals. -/
def Shape.ofOutline (outline : Sql.Outline) (text : List Char) : Shape :=
  match outline with
  | .query q => .select (.ofQuery q text)
  | .insert namesColumns rows => .insert ⟨namesColumns, rows⟩
  | .update hasWhere => .update ⟨hasWhere, limitPattern.occurs text⟩
  | .delete hasWhere limited => .delete ⟨hasWhere, limited⟩
  | .alterTable => .alter
  | .drop => .drop
  | .truncate => .truncate
  | .createTable => .createTable
  | .explain | .other => .ofText text

/-! ## §2. Readings -/

/-- A parser: the statements of a text, or nothing if it gives up. -/
abbrev Parser := List Char → Option (List Sql.Outline)

/-- What reading a text as one statement came to. -/
inductive Reading where
  /-- it is one statement -/
  | parsed (shape : Shape)
  /-- it is none or several -/
  | several (count : Nat)
  /-- the parser gave up -/
  | malformed
deriving DecidableEq, Repr

/-- Reads a text as one statement. -/
def Reading.ofText (parser : Parser) (text : List Char) : Reading :=
  match parser text with
  | some [outline] => .parsed (.ofOutline outline (upper text))
  | some outlines => .several outlines.length
  | none => .malformed

/-- Why a text is not read as one statement. -/
def Reading.reason? : Reading → Option String
  | parsed _ => none
  | several n => some s!"expected one statement, found {n}"
  | malformed => some "syntax"

/-! ## §3. Laws -/

/-- A reading is parsed exactly when the parser finds one statement. -/
theorem Reading.read_parsed_iff (parser : Parser) (text : List Char) (shape : Shape) :
    Reading.ofText parser text = .parsed shape ↔
      ∃ outline, parser text = some [outline] ∧ shape = .ofOutline outline (upper text) := by
  unfold Reading.ofText
  split <;> simp_all [eq_comm]

/-- The outline alone decides the kind, except for the statements that it does not look into. -/
theorem Shape.kind_ofOutline (outline : Sql.Outline) (text : List Char) :
    (Shape.ofOutline outline text).kind =
      match outline with
      | .query _ => .select
      | .insert .. => .insert
      | .update _ => .update
      | .delete .. => .delete
      | .alterTable => .alter
      | .drop => .drop
      | .truncate => .truncate
      | .createTable => .createTable
      | .explain | .other => Kind.ofText text := by
  cases outline
  case explain => exact Shape.kind_ofText text
  case other => exact Shape.kind_ofText text
  all_goals rfl

end ScriptGate.Statement
