/-
  ScriptGate.Review.Validation — is a script fit to be deployed?

  Every statement has to open with a known keyword, must not look like an attack, and must parse.
  The parser does not know every construct of a database, so a query that it rejects is shown to
  the planner; other statements get the benefit of the doubt.
-/
import ScriptGate.Database.Call
import ScriptGate.Script.Scan
import ScriptGate.Script.Keyword
import ScriptGate.Statement.Reading

namespace ScriptGate.Review

open ScriptGate.Text ScriptGate.Script ScriptGate.Statement

/-! ## §1. Rules -/

/-- The keywords that a statement may open with. -/
def allowedKeywords : List String :=
  ["SELECT", "INSERT", "UPDATE", "DELETE", "CREATE", "ALTER", "DROP", "TRUNCATE", "WITH"]

/-- What a statement must not contain, in small or capital letters. -/
def suspiciousPatterns : List Pattern := [
  .all [.text "'", .blanksOrNone, .anyCase "OR", .blanks, .text "'"],
  .all [.text "'", .blanksOrNone, .anyCase "OR", .blanks, .text "1", .blanksOrNone, .text "=",
    .blanksOrNone, .text "1"],
  .all [.anyCase "UNION", .blanks, .anyCase "SELECT"],
  .all [.anyCase "EXEC", .blanksOrNone, .text "("],
  .all [.anyCase "EXECUTE", .blanksOrNone, .text "("]]

/-- Does a statement in capitals open with an allowed keyword and a blank behind it? -/
def opensAllowed (capitals : List Char) : Bool :=
  allowedKeywords.contains (String.ofList (leadingKeyword capitals)) &&
    (capitals.drop (leadingWord capitals).length).head?.any isBlank

/-- Does a statement contain a suspicious pattern? -/
def isSuspicious (statement : List Char) : Bool :=
  suspiciousPatterns.any fun p => p.occurs statement

-- each pattern has a text of its own, and a text beside it that none of them matches
example :
    ["a' Or 'b", "a'or 1=1", "reunion select 1", "exec (x)", "Execute(x)",
      "a' or b", "a' or 2=1", "union all select 1", "exec x", "executed(x)"].map
        (fun text => suspiciousPatterns.findIdx (·.occurs text.toList))
      = [0, 1, 2, 3, 4, 5, 5, 5, 5, 5] := by
  decide +kernel

/-! ## §2. Statements -/

/-- A script without statements. -/
def emptyFault : Fault := .validation "SQL is empty."

/-- A statement with another opening. -/
def keywordFault : Fault :=
  .validation ("SQL must start with a valid SQL keyword: " ++ ", ".intercalate allowedKeywords)

/-- A statement with a suspicious pattern. -/
def patternFault : Fault :=
  .validation "SQL contains potentially dangerous pattern. Please review your query."

/-- A query that neither the parser nor the planner understands. -/
def syntaxFault (cause : Fault) : Fault :=
  .validation ("SQL syntax validation failed: " ++ cause.detail)

/-- What is wrong with a statement on sight. -/
def inspect (statement : List Char) : Option Fault :=
  if !opensAllowed (upper statement) then some keywordFault
  else if isSuspicious statement then some patternFault
  else none

/-- Does a statement need the planner's opinion? -/
def needsPlanner (parser : Parser) (statement : List Char) : Bool :=
  (parser statement).isNone && leadingKeyword (upper statement) == "SELECT".toList

/-- Validates one statement. -/
def validateStatement (parser : Parser) (db : Database σ) (statement : List Char) :
    StateM σ (Except Fault Unit) := do
  match inspect statement with
  | some fault => return .error fault
  | none =>
    if needsPlanner parser statement then
      return (← db.explain statement).mapError syntaxFault
    else return .ok ()

/-! ## §3. Scripts -/

/-- Validates statements in order, up to the first that is refused. -/
def validateAll (parser : Parser) (db : Database σ) :
    List (List Char) → StateM σ (Except Fault Unit)
  | [] => return .ok ()
  | statement :: rest => do
    match ← validateStatement parser db statement with
    | .error fault => return .error fault
    | .ok () => validateAll parser db rest

/-- Validates a script. -/
def validate (parser : Parser) (db : Database σ) (script : List Char) :
    StateM σ (Except Fault Unit) :=
  match fragments script with
  | [] => return .error emptyFault
  | statements => validateAll parser db statements

end ScriptGate.Review
