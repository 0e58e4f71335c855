/-
  ScriptGate.Service.Gate — one database with everything that guards it.
-/
import ScriptGate.Backup.Copy
import ScriptGate.Deployment.Workflow
import ScriptGate.Review.Validation

namespace ScriptGate.Service

open ScriptGate.Audit ScriptGate.Backup ScriptGate.Deployment ScriptGate.Review
  ScriptGate.Schema ScriptGate.Statement

/-- A database behind a gate. -/
structure Gate (σ : Type) where
  /-- reads statements -/
  parser : Parser
  /-- the database -/
  database : Database σ
  /-- the audit trail -/
  trail : Store σ
  /-- makes a backup and tells where it is -/
  backup : StateM σ (Except Fault String)
  /-- the schema that is watched -/
  schema : String
  /-- what checksums are made with -/
  digest : Snapshot.Digest
  /-- how many rows a preview shows -/
  previewLimit : Nat

/-- What deployments through the gate rely on. -/
def Gate.services (g : Gate σ) : Services σ where
  validate := validate g.parser g.database
  backup := g.backup
  record := g.trail.append
  database := g.database
  schema := g.schema
  digest := g.digest

end ScriptGate.Service
