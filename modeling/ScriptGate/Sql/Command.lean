/-
  ScriptGate.Sql.Command — statements about the session, rights, transactions and upkeep.

  Each rule starts behind the keyword of its statement.  None of these statements is looked into
  by the review, so the rules only tell where they end.
-/
import ScriptGate.Sql.Definition

namespace ScriptGate.Sql

open Rule ScriptGate.Text

/-! ## §1. Transactions -/

/-- Modes of a transaction, with commas between or without; a comma must be followed by one. -/
def transactionModes : Rule Unit := do
  let commas ← repeated do
    if ← mode? then return some (← sign? ",")
    return none
  require (commas.getLast? != some true)
where
  /-- A mode, if one follows. -/
  mode? : Rule Bool := do
    if ← keywords? ["ISOLATION", "LEVEL"] then
      require (← anyKeywords? [["READ", "UNCOMMITTED"], ["READ", "COMMITTED"],
        ["REPEATABLE", "READ"], ["SERIALIZABLE"]])
      return true
    anyKeywords? [["READ", "ONLY"], ["READ", "WRITE"]]

/-- `TRANSACTION` or `WORK`, and whether another transaction follows. -/
def chain? : Rule Unit := do
  let _ ← oneOf? ["TRANSACTION", "WORK"]
  if ← keyword? "AND" then
    let _ ← keyword? "NO"
    keyword "CHAIN"

/-- START. -/
def startTransaction : Rule Unit := do
  keyword "TRANSACTION"
  transactionModes

/-- BEGIN. -/
def beginTransaction : Rule Unit := do
  let _ ← oneOf? ["DEFERRED", "IMMEDIATE", "EXCLUSIVE"]
  let _ ← oneOf? ["TRANSACTION", "WORK"]
  transactionModes

/-- ROLLBACK. -/
def rollback : Rule Unit := do
  chain?
  if ← keyword? "TO" then
    let _ ← keyword? "SAVEPOINT"
    ignored name

/-- RELEASE. -/
def release : Rule Unit := do
  let _ ← keyword? "SAVEPOINT"
  ignored name

/-! ## §2. SET -/

/-- The role behind SET. -/
def setRole : Rule Unit := do
  keyword "ROLE"
  if !(← keyword? "NONE") then ignored name

/-- The values a setting gets. -/
def settingValues (g : Grammar) : Rule Unit :=
  ignored <| commaSeparated do
    if ← sees (Token.isKeywordOf ["SELECT", "WITH"]) then ignored g.query
    else ignored g.anyTerm

/-- Several variables in parentheses. -/
def setVariables (g : Grammar) : Rule Unit := do
  columnList
  require ((← sign? "=") || (← keyword? "TO"))
  parenthesized (settingValues g)

/-- One variable.  The names of the character set, the time zone and the traits of transactions
    have values of their own. -/
def setVariable (g : Grammar) (inScope : Bool) : Rule Unit := do
  let target ← if ← keywords? ["TIME", "ZONE"] then pure "TIMEZONE"
    else pure (".".intercalate (← path))
  if target.toUpper == "NAMES" then
    if ← keyword? "DEFAULT" then return
    let _ ← text
    ignored (behind? "COLLATE" text)
  else if (← sign? "=") || (← keyword? "TO") then settingValues g
  else if target.toUpper == "TIMEZONE" then ignored g.anyTerm
  else if target == "CHARACTERISTICS" then
    keywords ["AS", "TRANSACTION"]
    transactionModes
  else
    require (target == "TRANSACTION" && !inScope)
    if ← keyword? "SNAPSHOT" then anyValue else transactionModes

/-- SET. -/
def set (g : Grammar) : Rule Unit := do
  let scope ← oneOf? ["SESSION", "LOCAL", "HIVEVAR"]
  if scope == some "HIVEVAR" then sign ":"
  else if (← maybe setRole).isSome then return
  if ← sees (Token.isSign "(") then setVariables g
  else setVariable g scope.isSome

/-! ## §3. SHOW -/

/-- A filter of what is shown, if it is there. -/
def showFilter? (g : Grammar) : Rule Unit := do
  if (← oneOf? ["LIKE", "ILIKE"]).isSome then ignored text
  else if ← keyword? "WHERE" then ignored g.anyTerm
  else ignored (maybe text)

/-- Where the shown objects lie, if it is said. -/
def showIn? : Rule Unit := do
  if (← oneOf? ["FROM", "IN"]).isNone then return
  match ← oneOf? ["ACCOUNT", "DATABASE", "SCHEMA", "TABLE", "VIEW"] with
  | some parent =>
    let ts ← ahead
    let bounded := (ts.take 2).map Token.keyword == ["STARTS", "WITH"] ||
      ts.head?.any (Token.isKeyword "LIMIT")
    if !((parent == "DATABASE" || parent == "SCHEMA") && bounded) then ignored (maybe path)
  | none =>
    let _ ← path
    if (← oneOf? ["FROM", "IN"]).isSome then ignored name

/-- The clauses behind the kind of the shown objects. -/
def showClauses (g : Grammar) : Rule Unit := do
  showIn?
  showFilter? g
  if ← keywords? ["STARTS", "WITH"] then anyValue
  ignored (limit? g)
  if ← keyword? "FROM" then anyValue

/-- A variable of the session: all tokens up to the end or to an equals sign, separators of
    statements among them. -/
def showVariable : Rule Unit := while? (take? fun t => !t.isSign "=")

/-- SHOW. -/
def showing (g : Grammar) : Rule Unit := do
  let _ ← keyword? "TERSE"
  let extended ← keyword? "EXTENDED"
  let full ← keyword? "FULL"
  let _ ← keyword? "SESSION"
  let _ ← keyword? "GLOBAL"
  let external ← keyword? "EXTERNAL"
  if ← keyword? "TABLES" then
    if !external then ignored (keyword? "HISTORY")
    showClauses g
  else if ← anyKeywords? [["COLUMNS"], ["FIELDS"], ["MATERIALIZED", "VIEWS"], ["VIEWS"]] then
    showClauses g
  else if ← keyword? "FUNCTIONS" then showFilter? g
  else
    require !(extended || full)
    if ← keyword? "CREATE" then
      let _ ← oneOf ["TABLE", "TRIGGER", "FUNCTION", "PROCEDURE", "EVENT", "VIEW"]
      ignored path
    else if (← oneOf? ["COLLATION", "VARIABLES", "STATUS"]).isSome then showFilter? g
    else if (← oneOf? ["DATABASES", "SCHEMAS"]).isSome then
      let _ ← keyword? "HISTORY"
      showClauses g
    else showVariable

/-! ## §4. Rights -/

/-- A right, some with columns. -/
def right : Rule Unit := do
  let columned := ["INSERT", "REFERENCES", "SELECT", "UPDATE"]
  let k ← oneOf (columned ++ ["CONNECT", "CREATE", "DELETE", "EXECUTE", "TEMPORARY", "TRIGGER",
    "TRUNCATE", "USAGE"])
  if columned.contains k then ignored columnList?

/-- Rights and the objects they are for. -/
def rightsOn : Rule Unit := do
  if ← keyword? "ALL" then ignored (keyword? "PRIVILEGES")
  else ignored (commaSeparated right)
  keyword "ON"
  if !(← anyKeywords? [["ALL", "TABLES", "IN", "SCHEMA"],
      ["ALL", "SEQUENCES", "IN", "SCHEMA"]]) then
    ignored (oneOf? ["SEQUENCE", "SCHEMA", "TABLE"])
  paths

/-- GRANT. -/
def grant : Rule Unit := do
  rightsOn
  keyword "TO"
  names
  let _ ← keywords? ["WITH", "GRANT", "OPTION"]
  if ← keywords? ["GRANTED", "BY"] then ignored name

/-- REVOKE. -/
def revoke : Rule Unit := do
  rightsOn
  keyword "FROM"
  names
  if ← keywords? ["GRANTED", "BY"] then ignored name
  let cascade ← keyword? "CASCADE"
  let restrict ← keyword? "RESTRICT"
  require !(cascade && restrict)

/-! ## §5. COPY -/

/-- An option of COPY. -/
def copyOption : Rule Unit := do
  match ← oneOf ["FORMAT", "FREEZE", "DELIMITER", "NULL", "HEADER", "QUOTE", "ESCAPE",
      "FORCE_QUOTE", "FORCE_NOT_NULL", "FORCE_NULL", "ENCODING"] with
  | "FORMAT" => ignored name
  | "FREEZE" | "HEADER" => ignored (oneOf? ["TRUE", "FALSE"])
  | "DELIMITER" | "QUOTE" | "ESCAPE" => character
  | "NULL" | "ENCODING" => ignored text
  | _ => columnList

/-- An option of a CSV file, as it was written once. -/
def csvOption : Rule Unit := do
  match ← oneOf ["HEADER", "QUOTE", "ESCAPE", "FORCE"] with
  | "HEADER" => return
  | "FORCE" =>
    require (← anyKeywords? [["NOT", "NULL"], ["QUOTE"]])
    names
  | _ =>
    let _ ← keyword? "AS"
    character

/-- An option of COPY, as it was written once. -/
def olderCopyOption : Rule Unit := do
  match ← oneOf ["BINARY", "DELIMITER", "NULL", "CSV"] with
  | "BINARY" => return
  | "DELIMITER" =>
    let _ ← keyword? "AS"
    character
  | "NULL" =>
    let _ ← keyword? "AS"
    ignored text
  | _ => ignored (repeated (maybe csvOption))

/-- The rows behind COPY FROM STDIN: everything up to a backslash and a point. -/
def copiedRows : Rule Unit := fun _ ts => .ok ((), go ts)
where
  /-- The tokens behind the rows. -/
  go : List Token → List Token
    | [] => []
    | .sign s :: t :: rest =>
      if s == "\\" then
        if t == .sign "." then rest else go rest
      else go (t :: rest)
    | _ :: rest => go rest

/-- COPY. -/
def copy (g : Grammar) : Rule Unit := do
  let fromQuery ← sees (Token.isSign "(")
  if fromQuery then g.parenthesizedQuery
  else
    let _ ← path
    ignored columnList?
  let direction ← oneOf ["FROM", "TO"]
  require !(fromQuery && direction == "FROM")
  let stdin ← keyword? "STDIN"
  if !stdin && !(← keyword? "STDOUT") then
    let _ ← keyword? "PROGRAM"
    ignored text
  let _ ← keyword? "WITH"
  if ← sees (Token.isSign "(") then parenthesized (ignored (commaSeparated copyOption))
  let _ ← repeated (maybe olderCopyOption)
  if stdin then
    sign ";"
    copiedRows

/-! ## §6. Prepared statements and cursors -/

/-- EXECUTE: the arguments may stand in parentheses. -/
def execute (g : Grammar) : Rule Unit := do
  let _ ← path
  if ← sees (Token.isSign "(") then
    parenthesized (ignored (commaSeparatedBefore ")" g.anyTerm))
  else
    let done ← atEnd
    let done ← if done then pure true else sees fun t => t.isKeyword "USING" || t.isSign ";"
    if !done then g.terms
  ignored (behind? "USING" (commaSeparated g.anyTerm))

/-- PREPARE. -/
def prepare (g : Grammar) : Rule Unit := do
  let _ ← name
  if ← sees (Token.isSign "(") then parenthesized (ignored (commaSeparated g.wholeType))
  keyword "AS"
  ignored g.statement

/-- DEALLOCATE. -/
def deallocate : Rule Unit := do
  let _ ← keyword? "PREPARE"
  ignored name

/-- CALL. -/
def callProcedure (g : Grammar) : Rule Unit := do
  let _ ← path
  if ← sees (Token.isSign "(") then call g

/-- DECLARE: a cursor. -/
def declare (g : Grammar) : Rule Unit := do
  let _ ← name
  let _ ← keyword? "BINARY"
  let _ ← oneOf? ["INSENSITIVE", "ASENSITIVE"]
  let _ ← anyKeywords? [["SCROLL"], ["NO", "SCROLL"]]
  keyword "CURSOR"
  if (← oneOf? ["WITH", "WITHOUT"]).isSome then keyword "HOLD"
  keyword "FOR"
  ignored g.query

/-- FETCH from a cursor. -/
def fetchFromCursor : Rule Unit := do
  match ← oneOf? ["NEXT", "PRIOR", "FIRST", "LAST", "ALL", "ABSOLUTE", "RELATIVE", "FORWARD",
      "BACKWARD"] with
  | none | some "ABSOLUTE" | some "RELATIVE" => numberValue
  | some "FORWARD" | some "BACKWARD" => if !(← keyword? "ALL") then numberValue
  | some _ => pure ()
  let _ ← oneOf ["FROM", "IN"]
  let _ ← name
  ignored (behind? "INTO" path)

/-- CLOSE. -/
def close : Rule Unit := do
  if !(← keyword? "ALL") then ignored name

/-! ## §7. Explanations and comments -/

/-- Options of EXPLAIN in parentheses. -/
def explainOptions (g : Grammar) : Rule Unit :=
  parenthesized <| ignored <| commaSeparated do
    let _ ← name
    if !(← sees fun t => t.isSign "," || t.isSign ")") then ignored g.anyTerm

/-- EXPLAIN and DESCRIBE: a statement, or the table of that name.  Explanations do not nest. -/
def explain (g : Grammar) (optioned : Bool) : Rule Outline := do
  if optioned && (← sees (Token.isSign "(")) then explainOptions g
  else if !(← keywords? ["QUERY", "PLAN"]) then
    let _ ← keyword? "ANALYZE"
    let _ ← keyword? "VERBOSE"
    ignored (behind? "FORMAT" (oneOf ["TEXT", "GRAPHVIZ", "JSON"]))
  match ← maybe g.statement with
  | some .explain => refuse
  | some _ => return .explain
  | none =>
    let _ ← oneOf? ["EXTENDED", "FORMATTED"]
    let _ ← path
    return .explain

/-- COMMENT. -/
def comment : Rule Unit := do
  ifExists?
  keyword "ON"
  let _ ← oneOf ["COLUMN", "TABLE", "EXTENSION", "SCHEMA", "DATABASE", "USER", "ROLE"]
  let _ ← path
  keyword "IS"
  if !(← keyword? "NULL") then ignored text

/-- ASSERT. -/
def assertion (g : Grammar) : Rule Unit := do
  let _ ← g.anyTerm
  ignored (behind? "AS" g.anyTerm)

/-! ## §8. Upkeep -/

/-- ANALYZE. -/
def analyze (g : Grammar) : Rule Unit := do
  keyword "TABLE"
  let _ ← path
  while? do
    match ← oneOf? ["PARTITION", "FOR", "CACHE", "NOSCAN", "COMPUTE"] with
    | some "PARTITION" => g.parenthesizedTerms
    | some "FOR" =>
      keyword "COLUMNS"
      ignored (maybe names)
    | some "CACHE" => keyword "METADATA"
    | some "COMPUTE" => keyword "STATISTICS"
    | some _ => pure ()
    | none => return false
    return true

/-- KILL. -/
def kill : Rule Unit := do
  let _ ← oneOf? ["CONNECTION", "QUERY", "MUTATION"]
  natural

/-- The tables behind FLUSH TABLES, among its other words. -/
def flushedTables : Rule Unit :=
  while? do
    let t ← peek
    match t with
    | some (.word w) =>
      if w.keyword == "" then paths
      else
        skip
        if w.keyword == "WITH" then ignored (keywords? ["READ", "LOCK"])
        else if w.keyword == "FOR" then ignored (keyword? "EXPORT")
      return true
    | some _ =>
      skip
      return false
    | none => return false

/-- FLUSH. -/
def flush : Rule Unit := do
  let _ ← oneOf? ["NO_WRITE_TO_BINLOG", "LOCAL"]
  if ← keywords? ["RELAY", "LOGS"] then
    if ← keywords? ["FOR", "CHANNEL"] then ignored path
  else if ← anyKeywords? [["BINARY", "LOGS"], ["ENGINE", "LOGS"], ["ERROR", "LOGS"],
      ["GENERAL", "LOGS"], ["HOSTS"], ["PRIVILEGES"], ["OPTIMIZER_COSTS"], ["SLOW", "LOGS"],
      ["STATUS"], ["USER_RESOURCES"], ["LOGS"]] then return
  else
    keyword "TABLES"
    flushedTables

/-- MSCK. -/
def repair : Rule Unit := do
  let _ ← keyword? "REPAIR"
  keyword "TABLE"
  let _ ← path
  ignored (anyKeywords? [["ADD", "PARTITIONS"], ["DROP", "PARTITIONS"], ["SYNC", "PARTITIONS"],
    ["PARTITIONS"]])

/-- The options and the query behind the name of a cached table. -/
def cachedQuery? (g : Grammar) : Rule Unit := do
  let _ ← options? g ["OPTIONS"]
  if ← atEnd then return
  require (← sees (· matches .word _))
  let _ ← keyword? "AS"
  ignored g.query

/-- CACHE. -/
def cache (g : Grammar) : Rule Unit := do
  if !(← keyword? "TABLE") then
    let _ ← path
    keyword "TABLE"
  let _ ← path
  cachedQuery? g

/-- UNCACHE. -/
def uncache : Rule Unit := do
  keyword "TABLE"
  ifExists?
  ignored path

/-- OPTIMIZE. -/
def optimize (g : Grammar) : Rule Unit := do
  keyword "TABLE"
  let _ ← path
  onCluster?
  if ← keyword? "PARTITION" then
    if ← keyword? "ID" then ignored name else ignored g.anyTerm
  let _ ← keyword? "FINAL"
  if ← keyword? "DEDUPLICATE" then ignored (behind? "BY" g.anyTerm)

/-- DISCARD. -/
def discard : Rule Unit := ignored (oneOf ["ALL", "PLANS", "SEQUENCES", "TEMP", "TEMPORARY"])

/-- ATTACH. -/
def attach (g : Grammar) : Rule Unit := do
  let _ ← keyword? "DATABASE"
  let _ ← g.anyTerm
  keyword "AS"
  ignored name

/-- DETACH. -/
def detach : Rule Unit := do
  let _ ← keyword? "DATABASE"
  ifExists?
  ignored name

/-- PRAGMA. -/
def pragma : Rule Unit := do
  let _ ← path
  if ← sees (Token.isSign "(") then parenthesized setting
  else if ← sign? "=" then setting
where
  /-- A number, a string or a parameter. -/
  setting : Rule Unit := do require ((← value) != .other)

/-- UNLOAD. -/
def unload (g : Grammar) : Rule Unit := do
  g.parenthesizedQuery
  keyword "TO"
  let _ ← name
  ignored (options? g ["WITH"])

end ScriptGate.Sql
