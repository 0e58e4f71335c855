/-
  ScriptGate.Schema.Column — one column as the catalog of a database describes it.
-/

namespace ScriptGate.Schema

/-- One column of a table. -/
structure Column where
  /-- name of its table -/
  table : String
  /-- its own name -/
  column : String
  /-- its type, with length or precision -/
  dataType : String
  /-- may it be null? -/
  nullable : Bool
  /-- its default, empty without one -/
  default : String
deriving DecidableEq, Repr, Inhabited

namespace Column

/-- What a column is called within its schema. -/
def key (c : Column) : String := c.table ++ "." ++ c.column

/-- What two columns have to share to count as unchanged. -/
structure Definition where
  /-- type -/
  dataType : String
  /-- nullability -/
  nullable : Bool
  /-- default -/
  default : String
deriving DecidableEq, Repr

/-- The definition of a column. -/
def definition (c : Column) : Definition := ⟨c.dataType, c.nullable, c.default⟩

/-- Are the two columns defined alike? -/
def sameDefinition (c d : Column) : Bool := c.definition == d.definition

/-- The definition in the words of a column clause. -/
def describeDefinition (c : Column) : String :=
  c.dataType ++ " " ++ (if c.nullable then "NULL" else "NOT NULL") ++
    (if c.default.isEmpty then "" else " DEFAULT " ++ c.default)

/-- The column with its definition, for a list of changes. -/
def describe (c : Column) : String :=
  c.key ++ " " ++ c.dataType ++ " NULLABLE=" ++ (if c.nullable then "YES" else "NO") ++
    (if c.default.isEmpty then "" else " DEFAULT=" ++ c.default)

end Column

end ScriptGate.Schema
