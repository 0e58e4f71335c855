/-
  ScriptGate.Wire.Setting — the JSON form of settings.
-/
import ScriptGate.Setting.Settings
import ScriptGate.Wire.Json

namespace ScriptGate.Wire

open ScriptGate.Setting

/-- How the database is reached. -/
def connectionJson (c : Connection) : Json := .object [
  ("host", .text c.host), ("port", .nat c.port), ("user", .text c.user),
  ("password", .text c.password), ("database", .text c.database),
  ("maxPoolSize", .nat c.poolSize), ("requireTls", .bool c.requireTls)]

/-- How scripts are deployed. -/
def rolloutJson (d : Rollout) : Json := .object [
  ("schema", .text d.schema), ("backupStrategy", .text d.strategy.name),
  ("backupDir", .text d.backupDir), ("pgDumpPath", .text d.dumpTool),
  ("auditStore", .text d.auditPlace.name), ("previewRowLimit", .nat d.previewLimit),
  ("sessionIdleSecs", .nat d.idleSeconds)]

/-- The settings. -/
def settingsJson (s : Settings) : Json := .object [
  ("server", .object [("host", .text s.server.host.text), ("port", .nat s.server.port)]),
  ("database", connectionJson s.connection), ("cors", .texts s.origins),
  ("deployment", rolloutJson s.rollout)]

end ScriptGate.Wire
