/-
  ScriptGate.Sql.TypeName — data types.

  A type in angle brackets may end in `>>`, which the scanner reads as one sign; the second
  bracket then closes the type around it.
-/
import ScriptGate.Sql.Name

namespace ScriptGate.Sql

open Rule

/-! ## §1. Parts -/

/-- Types without parameters. -/
def plainTypes : List String := [
  "BOOLEAN", "BOOL", "REAL", "FLOAT4", "FLOAT32", "FLOAT64", "FLOAT8", "INT16", "INT32", "INT64",
  "INT128", "INT256", "UINT8", "UINT16", "UINT32", "UINT64", "UINT128", "UINT256", "TINYBLOB",
  "MEDIUMBLOB", "LONGBLOB", "UUID", "DATE", "DATE32", "JSON", "JSONB", "REGCLASS", "TEXT",
  "TINYTEXT", "MEDIUMTEXT", "LONGTEXT", "BYTEA", "TRIGGER"]

/-- Types with an optional precision. -/
def preciseTypes : List String := [
  "FLOAT", "CLOB", "BINARY", "VARBINARY", "BLOB", "BYTES", "DATETIME", "TIMESTAMPTZ", "TIMETZ",
  "STRING"]

/-- Integer types, which may have a display width and may be unsigned. -/
def integerTypes : List String := [
  "TINYINT", "INT2", "SMALLINT", "MEDIUMINT", "INT", "INT4", "INT8", "INTEGER", "BIGINT"]

/-- Exact numbers. -/
def exactTypes : List String := ["NUMERIC", "DECIMAL", "DEC", "BIGNUMERIC", "BIGDECIMAL"]

/-- A length in parentheses, or nothing. -/
def characterLength? : Rule Unit := do
  if ← sees (Token.isSign "(") then
    parenthesized do
      if ← keyword? "MAX" then return
      natural
      ignored (oneOf? ["CHARACTERS", "OCTETS"])

/-- The rest of a character type. -/
def characterType : Rule Unit := do
  if ← keyword? "VARYING" then characterLength?
  else if ← keywords? ["LARGE", "OBJECT"] then precision?
  else characterLength?

/-- `WITH TIME ZONE` or `WITHOUT TIME ZONE`, if it is there. -/
def timeZone? : Rule Unit := do
  if (← oneOf? ["WITH", "WITHOUT"]).isSome then keywords ["TIME", "ZONE"]

/-- The members of an enumeration: strings, each with a number or without. -/
def enumMembers : Rule Unit :=
  parenthesized <| ignored <| commaSeparated do
    let _ ← text
    if ← sign? "=" then signedNumber

/-- The parameters of a type that goes by a name of its own, behind the parenthesis: words,
    numbers and strings, with commas or without. -/
def typeParameters : Rule Unit := do
  while? (take? fun
    | .word _ | .number _ _ | .literal .plain _ => true
    | t => t.isSign ",")
  sign ")"

/-- One closing angle bracket.  `given` tells that the type inside took it already; the answer
    tells whether one too many has been taken. -/
def closeAngle (given : Bool) : Rule Bool := do
  if given then return false
  if ← sign? ">" then return false
  sign ">>"
  return true

/-- A field of a structure: a type, with a name in front or without. -/
def structField (g : Grammar) : Rule Bool := do
  let ts ← ahead
  match ts with
  | .word _ :: .word _ :: _ => ignored name
  | _ => pure ()
  return (← g.dataType).2

/-- The fields of a structure in angle brackets, if they are given; tells how many there are and
    whether a closing bracket too many was taken. -/
def structFields? (g : Grammar) : Rule (Nat × Bool) := do
  if ← sign? "<" then
    let trailing ← commaSeparated (structField g)
    require (trailing.dropLast.all (!·))
    return (trailing.length, ← closeAngle (trailing.getLast?.getD false))
  return (0, false)

/-! ## §2. Types -/

/-- The rest of a type that opens with the keyword `k`, which has been taken.  Nothing, if no
    type opens so. -/
def typeBehind? (g : Grammar) (k : String) : Rule (Option (DataType × Bool)) := do
  let builtin : Rule (Option (DataType × Bool)) := return some (.builtin, false)
  if plainTypes.contains k then builtin
  else if preciseTypes.contains k then precision?; builtin
  else if integerTypes.contains k then precision?; ignored (keyword? "UNSIGNED"); builtin
  else if exactTypes.contains k then precisionScale?; builtin
  else
    match k with
    | "DOUBLE" => ignored (keyword? "PRECISION"); builtin
    | "VARCHAR" | "NVARCHAR" => characterLength?; builtin
    | "CHARACTER" | "CHAR" => characterType; builtin
    | "BIT" => ignored (keyword? "VARYING"); precision?; builtin
    | "TIMESTAMP" | "TIME" => precision?; timeZone?; builtin
    | "INTERVAL" => return some (.interval, false)
    | "DATETIME64" =>
      parenthesized do
        natural
        if ← sign? "," then ignored text
      builtin
    | "FIXEDSTRING" => parenthesized natural; builtin
    | "ENUM" | "ENUM8" | "ENUM16" => enumMembers; builtin
    | "SET" => parenthesized (ignored (commaSeparated plainText)); builtin
    | "ARRAY" =>
      sign "<"
      let (_, trailing) ← g.dataType
      return some (.builtin, ← closeAngle trailing)
    | "UNION" =>
      parenthesized <| ignored <| commaSeparated do
        let _ ← name
        g.wholeType
      builtin
    | "NULLABLE" | "LOWCARDINALITY" => parenthesized (ignored g.wholeType); builtin
    | "MAP" =>
      parenthesized do
        let _ ← g.wholeType
        sign ","
        ignored g.wholeType
      builtin
    | "STRUCT" => return some (.builtin, (← structFields? g).2)
    | "NESTED" => parenthesized (ignored (commaSeparated g.column)); builtin
    | "TUPLE" => parenthesized (ignored (commaSeparated (structField g))); builtin
    | _ => return none

/-- Any number of array brackets; tells whether there were any. -/
def arrayBrackets? : Rule Bool := do
  let found ← repeated do
    if ← sign? "[" then
      let _ ← maybe natural
      sign "]"
      return some ()
    return none
  return !found.isEmpty

/-- A data type. -/
def dataType (g : Grammar) : Rule (DataType × Bool) := do
  match ← next with
  | .word w =>
    let (t, trailing) ←
      match ← typeBehind? g w.keyword with
      | some t => pure t
      | none =>
        while? do
          if ← sign? "." then
            let _ ← name
            return true
          return false
        if ← sign? "(" then typeParameters
        pure (.custom, false)
    return (if ← arrayBrackets? then .builtin else t, trailing)
  | _ => refuse

end ScriptGate.Sql
