/-
  ScriptGate.Sql.Column — columns of a table and constraints on them.
-/
import ScriptGate.Sql.TypeName
import ScriptGate.Sql.Call

namespace ScriptGate.Sql

open Rule

/-! ## §1. Sequences -/

/-- The options of a sequence, in their order. -/
def sequenceOptions : Rule Unit := do
  if ← keyword? "INCREMENT" then
    let _ ← keyword? "BY"
    signedNumber
  bound "MINVALUE"
  bound "MAXVALUE"
  if ← keyword? "START" then
    let _ ← keyword? "WITH"
    signedNumber
  let _ ← behind? "CACHE" signedNumber
  if ← keyword? "NO" then keyword "CYCLE" else ignored (keyword? "CYCLE")
where
  /-- A bound, or its absence. -/
  bound (k : String) : Rule Unit := do
    if ← keyword? k then signedNumber else ignored (keywords? ["NO", k])

/-! ## §2. Constraints -/

/-- Whether a constraint may be deferred and is enforced; each is said at most once. -/
def constraintTraits : Rule Unit := go 3 []
where
  /-- Reads the traits that are not among `said`; `fuel` bounds their number. -/
  go (fuel : Nat) (said : List String) : Rule Unit :=
    match fuel with
    | 0 => pure ()
    | fuel + 1 => do
      if !said.contains "DEFERRABLE" &&
          (← anyKeywords? [["NOT", "DEFERRABLE"], ["DEFERRABLE"]]) then
        go fuel ("DEFERRABLE" :: said)
      else if !said.contains "INITIALLY" && (← keyword? "INITIALLY") then
        let _ ← oneOf ["DEFERRED", "IMMEDIATE"]
        go fuel ("INITIALLY" :: said)
      else if !said.contains "ENFORCED" &&
          (← anyKeywords? [["ENFORCED"], ["NOT", "ENFORCED"]]) then
        go fuel ("ENFORCED" :: said)

/-- What happens to rows that refer to a row that goes. -/
def referentialAction : Rule Unit := do
  require (← anyKeywords? [["RESTRICT"], ["CASCADE"], ["SET", "NULL"], ["NO", "ACTION"],
    ["SET", "DEFAULT"]])

/-- What happens when the row referred to is removed or changed; each is said at most once. -/
def onDeleteOrUpdate : Rule Unit := do
  if ← keywords? ["ON", "DELETE"] then
    referentialAction
    if ← keywords? ["ON", "UPDATE"] then referentialAction
  else if ← keywords? ["ON", "UPDATE"] then
    referentialAction
    if ← keywords? ["ON", "DELETE"] then referentialAction

/-- The kind of an index behind USING, if it is said. -/
def indexKind? : Rule Bool := do
  if ← keyword? "USING" then
    let _ ← oneOf ["BTREE", "HASH"]
    return true
  return false

/-- Options of an index. -/
def indexOptions : Rule Unit :=
  while? do
    if ← indexKind? then return true
    if ← keyword? "COMMENT" then
      let _ ← text
      return true
    return false

/-- Whether missing values count as distinct, if it is said. -/
def nullsDistinct? : Rule Unit := do
  if ← keyword? "NULLS" then
    let _ ← keyword? "NOT"
    keyword "DISTINCT"

/-- A constraint on a table, if one follows. -/
def tableConstraint? (g : Grammar) : Rule Bool := do
  let named ← keyword? "CONSTRAINT"
  if named then ignored name
  match ← oneOf? ["UNIQUE", "PRIMARY", "FOREIGN", "CHECK"] with
  | some "UNIQUE" =>
    let _ ← oneOf? ["INDEX", "KEY"]
    nullsDistinct?
    uniqueColumns
    return true
  | some "PRIMARY" =>
    keyword "KEY"
    uniqueColumns
    return true
  | some "FOREIGN" =>
    keyword "KEY"
    columnList
    keyword "REFERENCES"
    let _ ← path
    columnList
    onDeleteOrUpdate
    constraintTraits
    return true
  | some _ =>
    g.parenthesizedTerm
    return true
  | none =>
    if named then refuse
    index?
where
  /-- The columns of a key with the options of its index. -/
  uniqueColumns : Rule Unit := do
    let _ ← name?
    let _ ← indexKind?
    columnList
    indexOptions
    constraintTraits
  /-- An index among the columns, if one follows. -/
  index? : Rule Bool := do
    if (← oneOf? ["INDEX", "KEY"]).isSome then
      if !(← sees (Token.isKeyword "USING")) then ignored name?
      let _ ← indexKind?
      columnList
      return true
    if (← oneOf? ["FULLTEXT", "SPATIAL"]).isSome then
      let _ ← oneOf? ["INDEX", "KEY"]
      let _ ← name?
      columnList
      return true
    return false

/-! ## §3. Columns -/

/-- What follows GENERATED; tells whether it is there in full. -/
def generated? (g : Grammar) : Rule Bool := do
  if ← anyKeywords? [["ALWAYS", "AS", "IDENTITY"], ["BY", "DEFAULT", "AS", "IDENTITY"]] then
    if ← sees (Token.isSign "(") then parenthesized sequenceOptions
    return true
  if ← keywords? ["ALWAYS", "AS"] then
    if ← sees (Token.isSign "(") then
      g.parenthesizedTerm
      ignored (oneOf? ["STORED", "VIRTUAL"])
      return true
  return false

/-- An option of a column, if one follows. -/
def columnOption? (g : Grammar) : Rule Bool := do
  if ← keywords? ["CHARACTER", "SET"] then done (ignored path)
  else if ← keywords? ["NOT", "NULL"] then return true
  else if ← keyword? "COMMENT" then done (ignored plainText)
  else if ← keyword? "NULL" then return true
  else if (← oneOf? ["DEFAULT", "MATERIALIZED", "ALIAS"]).isSome then done (ignored g.anyTerm)
  else if ← keyword? "EPHEMERAL" then
    done do
      if !(← sees fun t => t.isSign "," || t.isSign ")") then ignored g.anyTerm
  else if ← anyKeywords? [["PRIMARY", "KEY"], ["UNIQUE"]] then done constraintTraits
  else if ← keyword? "REFERENCES" then
    done do
      let _ ← path
      let _ ← columnList?
      onDeleteOrUpdate
      constraintTraits
  else if ← keyword? "CHECK" then done g.parenthesizedTerm
  else if (← oneOf? ["AUTO_INCREMENT", "AUTOINCREMENT", "ASC", "DESC"]).isSome then return true
  else if ← keywords? ["ON", "UPDATE"] then done (ignored g.anyTerm)
  else if ← keyword? "GENERATED" then generated? g
  else if ← sees (Token.isKeyword "OPTIONS") then done (ignored (options? g ["OPTIONS"]))
  else if ← keyword? "AS" then
    done do
      g.parenthesizedTerm
      ignored (oneOf? ["STORED", "VIRTUAL"])
  else if ← keyword? "IDENTITY" then
    done do
      if ← sees (Token.isSign "(") then
        parenthesized do
          signedNumber
          sign ","
          signedNumber
  else if ← keywords? ["ON", "CONFLICT"] then
    done (ignored (oneOf ["ROLLBACK", "ABORT", "FAIL", "IGNORE", "REPLACE"]))
  else return false
where
  /-- The option is there once its rest has been read. -/
  done (r : Rule Unit) : Rule Bool := do
    r
    return true

/-- A collation, if it is there. -/
def collation? : Rule Bool := do
  if ← keyword? "COLLATE" then
    let _ ← path
    return true
  return false

/-- The definition of a column. -/
def columnDefinition (g : Grammar) : Rule Unit := do
  let _ ← name
  let _ ← g.wholeType
  let _ ← collation?
  while? do
    if ← keyword? "CONSTRAINT" then
      let _ ← name
      require (← columnOption? g)
      return true
    if ← columnOption? g then return true
    collation?

/-- The columns and constraints of a table in parentheses, if they are there. -/
def tableElements? (g : Grammar) : Rule Unit := do
  if ← sign? "(" then
    if ← sign? ")" then return
    let _ ← commaSeparated do
      if !(← tableConstraint? g) then
        require (← sees (· matches .word _))
        columnDefinition g
    sign ")"

/-- Where a new column goes, if it is said. -/
def columnPosition? : Rule Unit := do
  if ← keyword? "FIRST" then return
  if ← keyword? "AFTER" then ignored name

end ScriptGate.Sql
