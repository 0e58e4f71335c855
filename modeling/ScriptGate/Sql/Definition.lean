/-
  ScriptGate.Sql.Definition — CREATE: tables, views, functions and the other objects.
-/
import ScriptGate.Sql.Change
import ScriptGate.Sql.Column

namespace ScriptGate.Sql

open Rule

/-! ## §1. Tables -/

/-- ON CLUSTER, if it is there. -/
def onCluster? : Rule Unit := do
  if ← keywords? ["ON", "CLUSTER"] then ignored name

/-- A delimiter behind keywords, if these are next. -/
def delimiter? (ks : List String) : Rule Bool := do
  if ← keywords? ks then
    let _ ← name
    return true
  return false

/-- One delimiter of the rows of a file, if one follows.  A keyword that opens none in full is
    taken all the same. -/
def rowDelimiter? : Rule Bool := do
  match ← oneOf? ["FIELDS", "COLLECTION", "MAP", "LINES", "NULL"] with
  | some "FIELDS" =>
    let found ← delimiter? ["TERMINATED", "BY"]
    if found then ignored (delimiter? ["ESCAPED", "BY"])
    return found
  | some "COLLECTION" => delimiter? ["ITEMS", "TERMINATED", "BY"]
  | some "MAP" => delimiter? ["KEYS", "TERMINATED", "BY"]
  | some "LINES" => delimiter? ["TERMINATED", "BY"]
  | some _ => delimiter? ["DEFINED", "AS"]
  | none => return false

/-- How the rows of a file are laid out, behind ROW. -/
def rowFormat : Rule Unit := do
  keyword "FORMAT"
  match ← oneOf? ["SERDE", "DELIMITED"] with
  | some "SERDE" => ignored text
  | _ => while? rowDelimiter?

/-- Where and how the rows of a table are stored, one clause of it, if one follows. -/
def storage? (g : Grammar) : Rule Bool := do
  if ← sees (Token.isKeyword "WITH") then options? g ["WITH", "SERDEPROPERTIES"]
  else
    match ← oneOf? ["ROW", "STORED", "LOCATION"] with
    | some "ROW" => rowFormat
    | some "STORED" =>
      keyword "AS"
      if ← keyword? "INPUTFORMAT" then
        let _ ← g.anyTerm
        keyword "OUTPUTFORMAT"
        ignored g.anyTerm
      else ignored (oneOf fileFormats)
    | some _ => ignored text
    | none => return false
    return true

/-- How the rows of a table are spread over files, if it is said. -/
def distribution? (g : Grammar) : Rule Unit := do
  if ← keywords? ["PARTITIONED", "BY"] then
    parenthesized (ignored (commaSeparated (columnDefinition g)))

/-- Buckets of a table, if they are said. -/
def buckets? (g : Grammar) : Rule Unit := do
  if ← keywords? ["CLUSTERED", "BY"] then
    columnList
    if ← keywords? ["SORTED", "BY"] then parenthesized (sortTerms g)
    keyword "INTO"
    numberValue
    keyword "BUCKETS"

/-- The engine of a table, behind ENGINE. -/
def engine : Rule Unit := do
  sign "="
  require (← take? (· matches .word _))
  if ← sees (Token.isSign "(") then columnList

/-- A word behind an equals sign. -/
def equalsWord : Rule Unit := do
  sign "="
  require (← take? (· matches .word _))

/-- What ORDER BY says of a table, if it is there. -/
def tableOrder? (g : Grammar) : Rule Unit := do
  if ← keywords? ["ORDER", "BY"] then
    if ← sees (Token.isSign "(") then
      parenthesized (ignored (commaSeparatedBefore ")" g.anyTerm))
    else ignored g.anyTerm

/-- The options of a table behind its columns, in their order. -/
def tableOptions (g : Grammar) : Rule Unit := do
  let _ ← keywords? ["WITHOUT", "ROWID"]
  distribution? g
  buckets? g
  while? (storage? g)
  let _ ← options? g ["WITH"]
  let _ ← options? g ["TBLPROPERTIES"]
  let _ ← behind? "ENGINE" engine
  if ← keyword? "AUTO_INCREMENT" then
    let _ ← sign? "="
    smallNatural
  if ← keywords? ["PRIMARY", "KEY"] then ignored g.anyTerm
  tableOrder? g
  if ← keywords? ["PARTITION", "BY"] then ignored g.anyTerm
  if ← keywords? ["CLUSTER", "BY"] then names
  let _ ← options? g ["OPTIONS"]
  if ← keywords? ["DEFAULT", "CHARSET"] then equalsWord
  if ← keyword? "COLLATE" then equalsWord
  if ← keywords? ["ON", "COMMIT"] then
    require (← anyKeywords? [["DELETE", "ROWS"], ["PRESERVE", "ROWS"], ["DROP"]])
  let _ ← keyword? "STRICT"
  if ← keyword? "COMMENT" then
    let _ ← sign? "="
    ignored plainText

/-- CREATE TABLE behind its keywords. -/
def createTable (g : Grammar) : Rule Outline := do
  let _ ← ifNotExists?
  let _ ← path
  onCluster?
  if (← oneOf? ["LIKE", "ILIKE"]).isSome then brokenPath
  if ← keyword? "CLONE" then brokenPath
  tableElements? g
  tableOptions g
  let _ ← behind? "AS" g.query
  return .createTable

/-- CREATE EXTERNAL TABLE behind EXTERNAL. -/
def createExternalTable (g : Grammar) : Rule Outline := do
  keyword "TABLE"
  let _ ← ifNotExists?
  let _ ← path
  tableElements? g
  distribution? g
  while? (storage? g)
  let _ ← options? g ["TBLPROPERTIES"]
  return .createTable

/-- CREATE VIRTUAL TABLE behind VIRTUAL. -/
def createVirtualTable : Rule Unit := do
  keyword "TABLE"
  let _ ← ifNotExists?
  let _ ← path
  keyword "USING"
  let _ ← name
  ignored columnList?

/-! ## §2. Views and indexes -/

/-- The columns of a view, if they are named. -/
def viewColumns? (g : Grammar) : Rule Unit := do
  if ← sees (Token.isSign "(") then
    parenthesized <| ignored <| commaSeparatedBefore ")" do
      let _ ← name
      if ← sees (Token.isKeywordOf ["OPTIONS", "COMMENT"]) then ignored (columnOption? g)

/-- CREATE VIEW, from MATERIALIZED or VIEW on. -/
def createView (g : Grammar) : Rule Unit := do
  let _ ← keyword? "MATERIALIZED"
  keyword "VIEW"
  let _ ← ifNotExists?
  let _ ← path
  viewColumns? g
  let _ ← options? g ["WITH"]
  if ← keyword? "CLUSTER" then
    keyword "BY"
    ignored columnList?
  let _ ← options? g ["OPTIONS"]
  let _ ← behind? "TO" path
  if ← keyword? "COMMENT" then
    sign "="
    ignored plainText
  keyword "AS"
  let _ ← g.query
  ignored (keywords? ["WITH", "NO", "SCHEMA", "BINDING"])

/-- CREATE INDEX behind INDEX. -/
def createIndex (g : Grammar) : Rule Unit := do
  let _ ← keyword? "CONCURRENTLY"
  let guarded ← ifNotExists?
  let unnamed ← if guarded then pure false else keyword? "ON"
  if !unnamed then
    let _ ← path
    keyword "ON"
  let _ ← path
  let _ ← behind? "USING" name
  parenthesized (sortTerms g)
  let _ ← behind? "INCLUDE" columnList
  nullsDistinct?
  let _ ← behind? "WITH" g.parenthesizedTerms
  ignored (behind? "WHERE" g.anyTerm)

/-! ## §3. Functions, procedures and triggers -/

/-- A parameter of a function: a type, with a mode, a name and a default or without. -/
def parameter (g : Grammar) : Rule Unit := do
  let _ ← oneOf? ["IN", "OUT", "INOUT"]
  if (← g.wholeType) == .custom then ignored g.wholeType
  if (← keyword? "DEFAULT") || (← sign? "=") then ignored g.anyTerm

/-- A function with its parameters, by which it is told from others of its name. -/
def signature (g : Grammar) : Rule Unit := do
  let _ ← path
  if ← sees (Token.isSign "(") then
    parenthesized (ignored (commaSeparatedBefore ")" (parameter g)))

/-- The body of a function. -/
def functionBody : Rule Unit := do
  let t ← peek
  match t with
  | some (.literal .dollar _) => skip
  | _ => ignored text

/-- The traits of a function; each is said at most once.  `fuel` bounds their number. -/
def functionTraits (g : Grammar) (fuel : Nat) (said : List String) : Rule Unit :=
  match fuel with
  | 0 => refuse
  | fuel + 1 => do
    let once (trait : String) : Rule Unit := do
      require !(said.contains trait)
      functionTraits g fuel (trait :: said)
    if ← keyword? "AS" then functionBody; once "body"
    else if ← keyword? "LANGUAGE" then let _ ← name; once "language"
    else if (← oneOf? ["IMMUTABLE", "STABLE", "VOLATILE"]).isSome then once "behavior"
    else if ← anyKeywords? [["CALLED", "ON", "NULL", "INPUT"],
        ["RETURNS", "NULL", "ON", "NULL", "INPUT"], ["STRICT"]] then once "null"
    else if ← keyword? "PARALLEL" then
      let _ ← oneOf ["UNSAFE", "RESTRICTED", "SAFE"]
      once "parallel"
    else if ← keyword? "RETURN" then let _ ← g.anyTerm; once "body"

/-- CREATE FUNCTION behind FUNCTION. -/
def createFunction (g : Grammar) : Rule Unit := do
  let _ ← path
  parenthesized (ignored (commaSeparatedBefore ")" (parameter g)))
  let _ ← behind? "RETURNS" g.wholeType
  functionTraits g 6 []

/-- CREATE MACRO behind MACRO. -/
def createMacro (g : Grammar) : Rule Unit := do
  let _ ← path
  parenthesized <| ignored <| commaSeparatedBefore ")" do
    let _ ← name
    if ← take? fun t => t.isSign ":=" || t.isSign "=>" then ignored g.anyTerm
  keyword "AS"
  if ← keyword? "TABLE" then ignored g.query else ignored g.anyTerm

/-- The parameters of a procedure up to the closing parenthesis.  Any number of them may be
    missing beside a comma. -/
def procedureParameters (g : Grammar) : Rule Unit :=
  while? do
    if ← sees (· matches .word _) then
      let _ ← name
      ignored g.wholeType
    let comma ← sign? ","
    if ← sign? ")" then return false
    require comma
    return true

/-- CREATE PROCEDURE behind PROCEDURE. -/
def createProcedure (g : Grammar) : Rule Unit := do
  let _ ← path
  if ← sign? "(" then
    if !(← sign? ")") then procedureParameters g
  keywords ["AS", "BEGIN"]
  let _ ← g.statements
  keyword "END"

/-- An event that fires a trigger. -/
def triggerEvent : Rule Unit := do
  if (← oneOf ["INSERT", "UPDATE", "DELETE", "TRUNCATE"]) == "UPDATE" then
    ignored (behind? "OF" names)

/-- CREATE TRIGGER behind TRIGGER. -/
def createTrigger (g : Grammar) : Rule Unit := do
  let _ ← path
  require (← anyKeywords? [["BEFORE"], ["AFTER"], ["INSTEAD", "OF"]])
  let _ ← separated (keyword? "OR") triggerEvent
  keyword "ON"
  let _ ← path
  if ← keyword? "FROM" then brokenPath
  constraintTraits
  if ← keyword? "REFERENCING" then
    while? do
      if (← oneOf? ["OLD", "NEW"]).isSome then
        if ← keyword? "TABLE" then
          let _ ← keyword? "AS"
          let _ ← path
          return true
      return false
  keyword "FOR"
  let _ ← keyword? "EACH"
  let _ ← oneOf ["ROW", "STATEMENT"]
  let _ ← behind? "WHEN" g.anyTerm
  keyword "EXECUTE"
  let _ ← oneOf ["FUNCTION", "PROCEDURE"]
  signature g

/-! ## §4. Other objects -/

/-- Whom something belongs to. -/
def owner : Rule Unit := do
  if (← oneOf? ["CURRENT_USER", "CURRENT_ROLE", "SESSION_USER"]).isNone then ignored name

/-- The last clauses of a policy: its roles and its two conditions. -/
def policyClauses (g : Grammar) : Rule Unit := do
  if ← keyword? "TO" then ignored (commaSeparated owner)
  let _ ← behind? "USING" g.parenthesizedTerm
  if ← keywords? ["WITH", "CHECK"] then g.parenthesizedTerm

/-- CREATE POLICY behind POLICY. -/
def createPolicy (g : Grammar) : Rule Unit := do
  let _ ← name
  keyword "ON"
  let _ ← path
  let _ ← behind? "AS" (oneOf ["PERMISSIVE", "RESTRICTIVE"])
  let _ ← behind? "FOR" (oneOf ["ALL", "SELECT", "INSERT", "UPDATE", "DELETE"])
  policyClauses g

/-- The name of a secret and the store it lies in, as far as they are given. -/
def secretPlace? : Rule Unit := do
  if ← sees (Token.isSign "(") then return
  if ← keyword? "IN" then
    if ← nameOrToken then return
  else ignored nameOrToken
  if ← keyword? "IN" then ignored nameOrToken

/-- CREATE SECRET behind SECRET. -/
def createSecret : Rule Unit := do
  let _ ← ifNotExists?
  secretPlace?
  parenthesized do
    keyword "TYPE"
    let _ ← name
    if ← sign? "," then
      ignored <| commaSeparated do
        let _ ← name
        name

/-- CREATE EXTENSION behind EXTENSION. -/
def createExtension : Rule Unit := do
  let _ ← ifNotExists?
  let _ ← name
  if ← keyword? "WITH" then
    let _ ← behind? "SCHEMA" name
    let _ ← behind? "VERSION" name
    ignored (keyword? "CASCADE")

/-- CREATE SCHEMA behind SCHEMA. -/
def createSchema : Rule Unit := do
  let _ ← ifNotExists?
  if ← keyword? "AUTHORIZATION" then ignored name
  else
    let _ ← path
    ignored (behind? "AUTHORIZATION" name)

/-- CREATE DATABASE behind DATABASE. -/
def createDatabase : Rule Unit := do
  let _ ← ifNotExists?
  let _ ← path
  while? do
    if (← oneOf? ["LOCATION", "MANAGEDLOCATION"]).isSome then
      let _ ← text
      return true
    return false

/-- CREATE ROLE behind ROLE. -/
def createRole : Rule Unit := do
  let _ ← ifNotExists?
  paths
  ignored (keyword? "WITH")

/-- CREATE SEQUENCE behind SEQUENCE. -/
def createSequence (g : Grammar) : Rule Unit := do
  let _ ← ifNotExists?
  let _ ← path
  let _ ← behind? "AS" g.wholeType
  sequenceOptions
  if ← keywords? ["OWNED", "BY"] then
    if !(← keyword? "NONE") then ignored path

/-- CREATE TYPE behind TYPE: a structure with its attributes. -/
def createType (g : Grammar) : Rule Unit := do
  let _ ← path
  keyword "AS"
  if ← sign? "(" then
    if ← sign? ")" then return
    let _ ← commaSeparated do
      if !(← sees (Token.isSign ")")) then
        let _ ← name
        let _ ← g.wholeType
        ignored collation?
    sign ")"

/-! ## §5. CREATE -/

/-- What may be defined anew in place of an older definition, behind CREATE and its modifiers. -/
def createReplaceable? (g : Grammar) : Rule (Option Outline) := do
  if ← keyword? "TABLE" then return some (← createTable g)
  if ← sees (Token.isKeywordOf ["MATERIALIZED", "VIEW"]) then createView g
  else if ← keyword? "POLICY" then createPolicy g
  else if ← keyword? "EXTERNAL" then return some (← createExternalTable g)
  else if ← keyword? "FUNCTION" then createFunction g
  else if ← anyKeywords? [["TRIGGER"], ["CONSTRAINT", "TRIGGER"]] then createTrigger g
  else if ← keyword? "MACRO" then createMacro g
  else if ← keyword? "SECRET" then createSecret
  else return none
  return some .other

/-- What else may be defined, behind CREATE and its modifiers. -/
def createOther (g : Grammar) : Rule Unit := do
  if ← keyword? "EXTENSION" then createExtension
  else if ← anyKeywords? [["INDEX"], ["UNIQUE", "INDEX"]] then createIndex g
  else if ← keyword? "VIRTUAL" then createVirtualTable
  else if ← keyword? "SCHEMA" then createSchema
  else if ← keyword? "DATABASE" then createDatabase
  else if ← keyword? "ROLE" then createRole
  else if ← keyword? "SEQUENCE" then createSequence g
  else if ← keyword? "TYPE" then createType g
  else
    keyword "PROCEDURE"
    createProcedure g

/-- CREATE behind its keyword. -/
def create (g : Grammar) : Rule Outline := do
  let replaces ← keywords? ["OR", "REPLACE"]
  let _ ← keywords? ["OR", "ALTER"]
  let _ ← keyword? "LOCAL"
  let _ ← keyword? "GLOBAL"
  let _ ← keyword? "TRANSIENT"
  let _ ← oneOf? ["TEMP", "TEMPORARY"]
  match ← createReplaceable? g with
  | some outline => return outline
  | none =>
    require !replaces
    createOther g
    return .other

end ScriptGate.Sql
