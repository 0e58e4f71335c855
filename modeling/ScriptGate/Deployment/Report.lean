/-
  ScriptGate.Deployment.Report — what a deployment changed.
-/
import ScriptGate.Deployment.Impact
import ScriptGate.Moment
import ScriptGate.Schema.Change

namespace ScriptGate.Deployment

open ScriptGate.Schema

/-- The report on a deployment. -/
structure Report where
  /-- the schema -/
  schema : String
  /-- when it was deployed -/
  deployedAt : String
  /-- what changed in the schema -/
  changes : List Change
  /-- the number of changes of each kind -/
  summary : Summary
  /-- what changed in the rows -/
  impact : Impact
  /-- checksum of the schema before -/
  checksumBefore : String
  /-- checksum of the schema after -/
  checksumAfter : String
deriving DecidableEq, Repr

namespace Report

/-- The report on what lies between two snapshots. -/
def build (digest : Snapshot.Digest) (now : Moment) (before after : Snapshot) (impact : Impact) :
    Report where
  schema := after.schema
  deployedAt := now.stamp
  changes := diff before after
  summary := .ofChanges (diff before after)
  impact := impact
  checksumBefore := before.checksum digest
  checksumAfter := after.checksum digest

/-- The changes, line by line. -/
def schemaImpact (r : Report) : List String := r.changes.map Change.line

/-- Did the schema change? -/
def schemaChanged (r : Report) : Bool := r.checksumBefore != r.checksumAfter

end Report

end ScriptGate.Deployment
