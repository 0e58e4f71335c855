/-
  ScriptGate.Review.Rules — the review rules, one statement at a time.

  Rules on the shape come first, then patterns that point to an attack, then hints on speed.  The
  patterns look at the text in capitals.
  Main statements:
    - `shapeFindings_critical_iff` — a shape is critical in itself when it removes a definition
                                     or touches every row of a table.
-/
import ScriptGate.Review.Finding
import ScriptGate.Statement.Shape

namespace ScriptGate.Review

open ScriptGate.Text ScriptGate.Statement

/-! ## §1. Patterns -/

/-- A name in capitals goes on with such a character. -/
def isCapitalNameChar (c : Char) : Bool := c.isUpper || c == '_'

/-- EXEC or EXECUTE. -/
def execPattern : Pattern := .all [.text "EXEC", .optional (.text "UTE")]

/-- One word. -/
def wordRun : Pattern := .run 1 isWordChar

/-- What injected text looks like. -/
def injectionPatterns : List Pattern := [
  .all [.text "'", .blanks, .text "OR", .blanks, .text "'"],
  .all [.wordEdge, .text "OR", .blanks, .text "1", .blanksOrNone, .text "=", .blanksOrNone,
    .text "1", .wordEdge],
  .all [.wordEdge, .text "UNION", .blanks, .optional (.all [.text "ALL", .blanks]),
    .text "SELECT", .wordEdge],
  .all [.text ";", .blanksOrNone, .text "DROP", .wordEdge],
  .all [.wordEdge, execPattern, .blanks, .one isWordChar],
  .all [.wordEdge, .text "XP_", wordRun]]

/-- Text run as SQL, or a call of a system procedure. -/
def dynamicPattern : Pattern :=
  .any [
    .all [.wordEdge, execPattern, .blanksOrNone, .text "("],
    .all [.wordEdge, .any [.text "SP", .text "XP"], .text "_", wordRun]]

/-- LIKE with a pattern that starts with a wildcard. -/
def leadingWildcardPattern : Pattern :=
  .all [.wordEdge, .optional (.text "I"), .text "LIKE", .blanks,
    .one (fun c => c == '\'' || c == '"'), .text "%"]

/-- A filter that compares what a function returns. -/
def functionFilterPattern : Pattern :=
  .all [.wordEdge, .text "WHERE", .blanks, .run 1 isCapitalNameChar, .blanksOrNone, .text "(",
    .run 1 (· != ')'), .text ")", .blanksOrNone, .one fun c => c == '=' || c == '<' || c == '>']

/-- A filter that compares with a number in quotes. -/
def quotedNumberPattern : Pattern :=
  .all [.wordEdge, .text "WHERE", .blanks, .one isCapitalNameChar,
    .run 0 (fun c => isCapitalNameChar c || c.isDigit || c == '.'), .blanksOrNone, .text "=",
    .blanksOrNone, .text "'", .run 1 Char.isDigit,
    .optional (.all [.text ".", .run 1 Char.isDigit]), .text "'"]

/-- A filter or a join. -/
def filterOrJoinPattern : Pattern := .any [.word "WHERE", .word "JOIN"]

/-- A word that speaks of an index. -/
def indexPattern : Pattern := .any [.word "INDEX", .word "PRIMARY", .word "UNIQUE"]

/-- A filter on an identifier: WHERE and, anywhere behind it, ID or a name that ends in _ID,
    compared by an equals sign or IN. -/
def identifierFilterPattern : Pattern :=
  .all [.word "WHERE", .run 0 (fun _ => true), .wordEdge,
    .any [.text "ID", .all [wordRun, .text "_ID"]], .blanksOrNone,
    .any [.text "=", .all [.text "IN", .wordEdge]]]

/-! ## §2. Rules on the shape -/

/-- Findings under conditions, in order. -/
def chosen (rules : List (Bool × Finding)) : List Finding :=
  rules.filterMap fun r => if r.1 then some r.2 else none

/-- Something chosen is critical exactly when a critical rule applies. -/
theorem any_isCritical_chosen (rules : List (Bool × Finding)) :
    (chosen rules).any Finding.isCritical = rules.any fun r => r.1 && r.2.isCritical := by
  induction rules with
  | nil => rfl
  | cons r rest ih =>
    rcases r with ⟨_ | _, f⟩ <;> simp_all [chosen]

/-- Findings on a query. -/
def selectFindings (s : SelectShape) : List Finding := chosen [
  (s.wildcard && !s.countStar,
    .warning .performance "Avoid SELECT *; specify the columns you need."),
  (s.hasFrom && !s.hasWhere,
    .info .performance "No WHERE clause: may return a large result set."),
  (s.hasOrderBy && !s.hasLimit,
    .info .performance "Consider adding LIMIT to ORDER BY queries."),
  (3 < s.joinCount,
    .warning .performance s!"Multiple JOINs ({s.joinCount}) may impact performance."),
  (2 < s.subqueryCount,
    .warning .performance s!"Multiple subqueries ({s.subqueryCount}) may impact performance."),
  (s.distinct && !s.groupBy,
    .info .performance "DISTINCT can be expensive on large tables.")]

/-- The hint for a change without a bound. -/
def limitHint : Finding := .info .safety "Add a LIMIT clause for safety during testing."

/-- Findings on a DELETE. -/
def deleteFindings (f : FilterShape) : List Finding := chosen [
  (!f.hasWhere,
    .critical .safety "DELETE without WHERE will remove ALL rows from the table."),
  (f.hasWhere, .warning .safety "DELETE operation: confirm a backup exists."),
  (!f.hasLimit, limitHint)]

/-- Findings on an UPDATE. -/
def updateFindings (f : FilterShape) (text : List Char) : List Finding := chosen [
  (!f.hasWhere,
    .critical .safety "UPDATE without WHERE will modify ALL rows in the table."),
  (f.hasWhere && (identifierFilterPattern.occurs text || indexPattern.occurs text),
    .warning .safety
      "Filter touches identifier or key columns; updating them may break relationships."),
  (!f.hasLimit, limitHint)]

/-- Findings on an INSERT. -/
def insertFindings (s : InsertShape) : List Finding := chosen [
  (!s.explicitColumns, .warning .style "Specify column names in INSERT statements."),
  (1 < s.valueRows,
    .info .performance
      s!"Multiple value sets detected ({s.valueRows}): consider batch size limits."),
  (!s.explicitColumns && 0 < s.valueRows,
    .warning .safety "Implicit column mapping: values depend on table column order.")]

/-- Findings on the shape of a statement. -/
def shapeFindings (shape : Shape) (text : List Char) : List Finding :=
  match shape with
  | .select s => selectFindings s
  | .delete f => deleteFindings f
  | .update f => updateFindings f text
  | .insert s => insertFindings s
  | .alter => [
      .warning .safety "Schema change: ALTER statement detected.",
      .info .safety "Test schema changes in a non-production environment first."]
  | .drop => [
      .critical .safety "DROP statement detected: potential data loss.",
      .info .safety "Take a backup before execution."]
  | .truncate => [
      .critical .safety "TRUNCATE clears the entire table contents.",
      .info .safety "Use DELETE with WHERE for selective removal."]
  | .createTable => [
      .info .style "Schema creation: CREATE TABLE statement detected.",
      .info .performance "Consider adding indexes and constraints."]
  | .unknown => []

/-! ## §3. Rules on the text -/

/-- Does the text look like injected SQL? -/
def injected (text : List Char) : Bool := injectionPatterns.any fun p => p.occurs text

-- each pattern has a text of its own, and a text beside it that none of them matches
example :
    ["A' OR 'B", "X OR 1 = 1", "UNION ALL SELECT 1", "; DROP TABLE T", "EXECUTE P", "XP_CMDSHELL",
      "A' OR B", "X OR 1 = 12", "REUNION SELECT 1", "; DROPPED", "EXECUTED", "XP_"].map
        (fun text => injectionPatterns.findIdx (·.occurs text.toList))
      = [0, 1, 2, 3, 4, 5, 6, 6, 6, 6, 6, 6] := by
  decide +kernel

/-- Findings on attacks. -/
def securityFindings (text : List Char) : List Finding := chosen [
  (injected text, .critical .security "Possible SQL injection pattern detected."),
  (dynamicPattern.occurs text,
    .warning .security "Dynamic SQL execution or system procedure call detected.")]

/-- Findings on speed. -/
def performanceFindings (text : List Char) : List Finding := chosen [
  (leadingWildcardPattern.occurs text,
    .warning .performance "Leading wildcard in LIKE prevents index usage."),
  (functionFilterPattern.occurs text,
    .warning .performance "Functions in WHERE clause may prevent index usage."),
  (quotedNumberPattern.occurs text,
    .info .performance "Possible implicit type conversion in WHERE clause."),
  (filterOrJoinPattern.occurs text && !indexPattern.occurs text,
    .info .performance "Consider indexing columns used in WHERE/JOIN clauses.")]

/-! ## §4. Critical shapes -/

/-- Does the statement remove a definition or touch every row of a table? -/
def isDestructive : Shape → Bool
  | .drop | .truncate => true
  | .update f | .delete f => !f.hasWhere
  | _ => false

/-- A shape is critical in itself exactly when it removes a definition or touches every row. -/
theorem shapeFindings_critical_iff (shape : Shape) (text : List Char) :
    (shapeFindings shape text).any Finding.isCritical = isDestructive shape := by
  cases shape with
  | select s =>
    simp [shapeFindings, selectFindings, isDestructive, any_isCritical_chosen, Finding.isCritical,
      Finding.info, Finding.warning]
  | insert s =>
    simp [shapeFindings, insertFindings, isDestructive, any_isCritical_chosen, Finding.isCritical,
      Finding.info, Finding.warning]
  | update f =>
    simp [shapeFindings, updateFindings, isDestructive, any_isCritical_chosen, Finding.isCritical,
      Finding.info, Finding.warning, Finding.critical, limitHint]
  | delete f =>
    simp [shapeFindings, deleteFindings, isDestructive, any_isCritical_chosen, Finding.isCritical,
      Finding.info, Finding.warning, Finding.critical, limitHint]
  | _ => rfl

end ScriptGate.Review
