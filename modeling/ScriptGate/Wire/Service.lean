/-
  ScriptGate.Wire.Service — the JSON forms of what the service tells about scripts and queries.
-/
import ScriptGate.Review.Overview
import ScriptGate.Service.Preview
import ScriptGate.Wire.Review

namespace ScriptGate.Wire

open ScriptGate.Review ScriptGate.Service

/-- The fields of the review of a script; statements that were not reviewed are left out. -/
def overviewFields (o : Overview) : List (String × Json) :=
  [("findings", findingsJson o.findings)] ++
    Json.field? "highestSeverity" (o.highest?.map fun s => .text s.name) ++
    if o.statements.isEmpty then []
    else [("statements", .array (o.statements.map analysisJson))]

/-- The fields of a preview. -/
def previewFields (p : Preview) : List (String × Json) := [
  ("rows", .array (p.rows.map .object)), ("rowCount", .nat p.rows.length),
  ("limit", .nat p.limit), ("truncated", .bool p.truncated)]

end ScriptGate.Wire
