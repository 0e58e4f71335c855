/-
  ScriptGate.Sql.Read — reading the statements of an SQL text.

  The grammar is tied together by a number of steps: the parts of the grammar at `n + 1` steps
  are the rules over the parts at `n`.  Every step either takes a token or opens one of the fifty
  levels a text may nest to, so a number of steps in proportion to the tokens is never used up.
  The grammar is that of the library `sqlparser`, in its generic dialect and with its limit for
  nesting.  The review does not rest on it: it takes the parser as a parameter.
-/
import ScriptGate.Sql.Alteration
import ScriptGate.Sql.Command
import ScriptGate.Sql.Scan
import ScriptGate.Sql.Term

namespace ScriptGate.Sql

open Rule

/-! ## §1. Statements -/

/-- A statement behind its keyword `k`, for the statements that the review does not look into. -/
def command (g : Grammar) (k : String) : Rule Unit :=
  match k with
  | "KILL" => kill
  | "FLUSH" => flush
  | "ANALYZE" => analyze g
  | "ATTACH" => attach g
  | "DETACH" => detach
  | "MSCK" => repair
  | "CACHE" => cache g
  | "DISCARD" => discard
  | "DECLARE" => declare g
  | "FETCH" => fetchFromCursor
  | "UNCACHE" => uncache
  | "CALL" => callProcedure g
  | "COPY" => copy g
  | "CLOSE" => close
  | "SET" => set g
  | "SHOW" => showing g
  | "USE" => ignored path
  | "GRANT" => grant
  | "REVOKE" => revoke
  | "START" => startTransaction
  | "BEGIN" => beginTransaction
  | "END" => chain?
  | "SAVEPOINT" => ignored name
  | "RELEASE" => release
  | "COMMIT" => chain?
  | "ROLLBACK" => rollback
  | "ASSERT" => assertion g
  | "DEALLOCATE" => deallocate
  | "EXECUTE" | "EXEC" => execute g
  | "PREPARE" => prepare g
  | "PRAGMA" => pragma
  | "UNLOAD" => unload g
  | "INSTALL" => ignored name
  | "LOAD" => ignored name
  | "OPTIMIZE" => optimize g
  | "COMMENT" => comment
  | _ => refuse

/-- A statement. -/
def statement (g : Grammar) : Rule Outline := nested do
  let t ← peek
  match t with
  | some (.sign "(") => return .query (← g.query)
  | some (.word w) =>
    if ["SELECT", "WITH", "VALUES"].contains w.keyword then return .query (← g.query)
    skip
    match w.keyword with
    | "INSERT" | "REPLACE" => insert g
    | "UPDATE" => update g
    | "DELETE" => delete g
    | "MERGE" => merge g
    | "CREATE" => create g
    | "ALTER" => alter g
    | "DROP" => drop g
    | "TRUNCATE" => truncate g
    | "EXPLAIN" => explain g true
    | "DESC" | "DESCRIBE" => explain g false
    | k =>
      command g k
      return .other
  | _ => refuse

/-- Statements with semicolons between, up to the end or to the keyword END behind a
    statement. -/
def statements (g : Grammar) : Rule (List Outline) := do
  while? (sign? ";")
  let first ← next? false
  match first with
  | none => return []
  | some first =>
    let others ← repeated do
      let separated ← sign? ";"
      while? (sign? ";")
      next? (!separated)
    return first :: others
where
  /-- The next statement, if there is one.  Behind a statement without a semicolon none may
      follow. -/
  next? (pending : Bool) : Rule (Option Outline) := do
    if ← atEnd then return none
    if pending && (← sees (Token.isKeyword "END")) then return none
    require !pending
    return some (← g.statement)

/-! ## §2. The whole grammar -/

/-- The grammar with `n` steps. -/
def grammar : Nat → Grammar
  | 0 => Grammar.refusing
  | n + 1 => {
      statement := fun c ts => statement (grammar n) c ts
      statements := fun c ts => statements (grammar n) c ts
      query := fun c ts =>
        query (grammar n) (ignored (insert (grammar n))) (ignored (update (grammar n))) c ts
      body := fun above c ts => body (grammar n) above c ts
      term := fun above c ts => term (grammar n) above c ts
      operand := fun c ts => operand (grammar n) c ts
      dataType := fun c ts => dataType (grammar n) c ts
      source := fun c ts => tableSource (grammar n) c ts
      column := fun c ts => columnDefinition (grammar n) c ts
      jsonColumn := fun c ts => jsonColumn (grammar n) c ts
      rowPattern := fun c ts => rowPattern (grammar n) c ts }

/-- How many levels a text may nest to. -/
def maxLevels : Nat := 50

/-- The statements that tokens spell, if all of them belong to one. -/
def ofTokens? (ts : List Token) : Option (List Outline) :=
  match statements (grammar (4 * ts.length + 8 * maxLevels)) { levels := maxLevels } ts with
  | .ok (outlines, _) => some outlines
  | .error _ => none

/-- The statements of a text; none if the text is not well formed. -/
def read? (text : List Char) : Option (List Outline) := (scan text).bind ofTokens?

end ScriptGate.Sql
