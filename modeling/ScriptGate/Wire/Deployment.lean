/-
  ScriptGate.Wire.Deployment — the JSON forms of deployments and of the audit trail.
-/
import ScriptGate.Deployment.Workflow
import ScriptGate.Wire.Schema

namespace ScriptGate.Wire

open ScriptGate.Audit ScriptGate.Deployment

/-! ## §1. Deployments -/

/-- What statements did to the rows. -/
def impactJson (i : Impact) : Json := .object [
  ("insertCount", .nat i.inserted.toNat), ("updateCount", .nat i.updated.toNat),
  ("deleteCount", .nat i.deleted.toNat),
  ("executedStatements", .texts (i.executed.map String.ofList))]

/-- The report on a deployment. -/
def reportJson (r : Report) : Json := .object [
  ("schema", .text r.schema), ("deployedAt", .text r.deployedAt),
  ("schemaDiff", .array (r.changes.map changeJson)), ("diffSummary", summaryJson r.summary),
  ("rowImpact", impactJson r.impact), ("beforeChecksum", .text r.checksumBefore),
  ("afterChecksum", .text r.checksumAfter)]

/-- The fields of an outcome; a step that was taken has none for its refusal. -/
def outcomeFields (o : Outcome) : List (String × Json) :=
  [("action", .text o.step.label), ("success", .bool o.success),
    ("status", .text o.status.name), ("state", .text o.stage.name),
    ("message", .text o.message)] ++
  Json.field? "failure" (o.refused.map fun k => .text k.name)

/-- An outcome. -/
def outcomeJson (o : Outcome) : Json := .object (outcomeFields o)

/-- The log of a deployment, line by line. -/
def logJson (w : Workflow) : Json := .texts (w.log.map LogLine.text)

/-- A deployment as the operator of a session sees it. -/
def workflowJson (session : Uuid) (w : Workflow) : Json :=
  let lines := (w.report.map Report.schemaImpact).getD []
  .object ([("sessionId", .text session.text), ("state", .text w.stage.name)] ++
    Json.field? "script" (w.script.map fun s => .text (String.ofList s)) ++
    [("transitions", logJson w)] ++
    Json.field? "report" (w.report.map reportJson) ++
    if lines.isEmpty then [] else [("schemaImpact", .texts lines)])

/-! ## §2. Audit trail -/

/-- An entry of the audit trail. -/
def entryJson (e : Entry) : Json := .object [
  ("id", .text e.id.text), ("action", .text e.record.action), ("source", .text e.record.source),
  ("status", .text e.record.status.name), ("details", .text e.record.details),
  ("timestamp", .text e.timestamp)]

/-- Entries of the audit trail. -/
def entriesJson (entries : List Entry) : Json := .array (entries.map entryJson)

end ScriptGate.Wire
