/-
  ScriptGate.Wire.Review — the JSON forms of findings, shapes and reviews.
-/
import ScriptGate.Wire.Json
import ScriptGate.Review.Analysis

namespace ScriptGate.Wire

open ScriptGate.Review ScriptGate.Statement

/-- The name of a kind of statement. -/
def kindName : Kind → String
  | .select => "select"
  | .insert => "insert"
  | .update => "update"
  | .delete => "delete"
  | .alter => "alter"
  | .drop => "drop"
  | .truncate => "truncate"
  | .createTable => "create_table"
  | .unknown => "unknown"

/-- A classification. -/
def classificationJson (c : Classification) : Json := .object [
  ("kind", .text (kindName c.kind)), ("hasWhereClause", .bool c.hasWhereClause),
  ("hasLimitClause", .bool c.hasLimitClause)]

/-- The features of a shape, apart from its kind. -/
def shapeFields : Shape → List (String × Json)
  | .select s => [
      ("wildcard", .bool s.wildcard), ("countStar", .bool s.countStar),
      ("hasFrom", .bool s.hasFrom), ("hasWhere", .bool s.hasWhere),
      ("hasLimit", .bool s.hasLimit), ("hasOrderBy", .bool s.hasOrderBy),
      ("joinCount", .nat s.joinCount), ("subqueryCount", .nat s.subqueryCount),
      ("distinct", .bool s.distinct), ("groupBy", .bool s.groupBy)]
  | .insert s => [
      ("explicitColumns", .bool s.explicitColumns), ("valueRows", .nat s.valueRows)]
  | .update f | .delete f => [("hasWhere", .bool f.hasWhere), ("hasLimit", .bool f.hasLimit)]
  | _ => []

/-- A shape. -/
def shapeJson (s : Shape) : Json :=
  .object (("kind", .text (kindName s.kind)) :: shapeFields s)

/-- A finding. -/
def findingJson (f : Finding) : Json := .object [
  ("severity", .text f.severity.name), ("category", .text f.category.name),
  ("message", .text f.message)]

/-- A list of findings. -/
def findingsJson (found : List Finding) : Json := .array (found.map findingJson)

/-- The review of a statement. -/
def analysisJson (a : Analysis) : Json := .object [
  ("statement", .text (String.ofList a.statement)),
  ("classification", (a.classification.map classificationJson).getD .null),
  ("parsed", .bool a.parsed), ("findings", findingsJson a.findings)]

end ScriptGate.Wire
