/-
  ScriptGate.Service.Request — what the service is asked.

  A message names an endpoint by its path and says by its method what is wanted there.  It is read
  as a whole before anything is done: the endpoint, the method, the parameters in the path, the
  body, and last what the body says.  A message that cannot be read has its answer already.

  The answers to such messages are those that the web framework documents (library `axum`): 404
  where nothing is routed, 405 for a method that a route has not, 400 for a parameter or a query
  that cannot be read, 415 for a body that is not said to be JSON, and 422 for JSON of another
  shape.  Bodies are read by derived decoders (library `serde`): by the names of their fields or, in
  a list, by their places; a field that is there twice is refused, and a name that is not known is
  passed over.  Two things are assumed of a message: its body is at most as large as the framework
  lets through by default, two megabytes (a larger one is answered 413 and goes no further), and if
  it has one it is well-formed JSON and said to be so (400 and 415 otherwise).
-/
import ScriptGate.Service.Answer
import ScriptGate.Text.Percent
import ScriptGate.Text.Trim
import ScriptGate.Uuid
import ScriptGate.Deployment.Workflow

namespace ScriptGate.Service

open ScriptGate.Deployment ScriptGate.Text ScriptGate.Wire

/-! ## §1. Messages -/

/-- A message to the service. -/
structure Message where
  /-- what is to be done -/
  method : String
  /-- where: a path, and perhaps a query behind a question mark -/
  target : String
  /-- the body, if there is one: JSON, and said to be JSON -/
  body : Option Json

namespace Message

/-- The target without a fragment. -/
def place (m : Message) : List Char := m.target.toList.takeWhile (· != '#')

/-- The parts of the path between slashes. -/
def path (m : Message) : List String :=
  ((m.place.takeWhile (· != '?')).splitOn '/').map String.ofList

/-- The query. -/
def query (m : Message) : List Char := (m.place.dropWhile (· != '?')).drop 1

end Message

/-! ## §2. Endpoints -/

/-- Where something can be asked.  Parameters are as they stand in the path. -/
inductive Endpoint where
  | health
  | sessions
  | session (id : String)
  | script (id : String)
  | workflow (id : String)
  | step (id action : String)
  | sessionAnalysis (id : String)
  | analysis
  | compare
  | preview
  | history
deriving DecidableEq, Repr

/-- The endpoint at a path; no part of a path is empty. -/
def Endpoint.ofPath? (path : List String) : Option Endpoint :=
  match path with
  | "" :: parts =>
    if parts.contains "" then none
    else
      match parts with
      | ["health"] => some health
      | ["api", "sessions"] => some sessions
      | ["api", "sessions", id] => some (session id)
      | ["api", "sessions", id, "script"] => some (script id)
      | ["api", "sessions", id, "workflow"] => some (workflow id)
      | ["api", "sessions", id, "workflow", action] => some (step id action)
      | ["api", "sessions", id, "analysis"] => some (sessionAnalysis id)
      | ["api", "analysis"] => some analysis
      | ["api", "compare"] => some compare
      | ["api", "preview"] => some preview
      | ["api", "history"] => some history
      | _ => none
  | _ => none

/-! ## §3. Parameters -/

/-- What is read from a message, or the answer to a message that cannot be read. -/
abbrev Reading (α : Type) := Except Answer α

/-- A parameter of the path. -/
def parameter (given : String) : Reading (List Char) :=
  match Percent.text? given.toList with
  | some text => .ok text
  | none => .error (.bare 400)

/-- An identifier. -/
def identifier (given : List Char) : Reading Uuid :=
  match Uuid.ofChars? given with
  | some id => .ok id
  | none => .error (.bare 400)

/-- The session that a path names. -/
def sessionOf (given : String) : Reading Uuid := do identifier (← parameter given)

/-- The fault of an action that there is not. -/
def unknownAction (action : String) : Fault :=
  .badRequest ("Unknown workflow action '" ++ action ++
    "' (expected validate, backup, approve, deploy or reset)")

/-- The command that an action stands for. -/
def commandOf (action : String) : Reading Workflow.Command :=
  match action with
  | "validate" => .ok .validate
  | "backup" => .ok .backup
  | "approve" => .ok .approve
  | "deploy" => .ok .deploy
  | "reset" => .ok .reset
  | other => .error (.ofFault (unknownAction other))

/-! ## §4. Bodies -/

/-- A field of the body, by its name or, in a list, by its place.  A body that gives the name more
    than once is refused. -/
def field (m : Message) (place : Nat) (name : String) : Reading (Option Json) :=
  match m.body with
  | none => .error (.bare 415)
  | some (.array items) => .ok items[place]?
  | some (.object fields) =>
    match Json.named name fields with
    | [] => .ok none
    | [j] => .ok (some j)
    | _ => .error (.bare 422)
  | some _ => .error (.bare 422)

/-- A field that holds a text. -/
def textField (m : Message) (place : Nat) (name : String) : Reading String := do
  match ← field m place name with
  | some (.text s) => return s
  | _ => throw (.bare 422)

/-- A field that holds a truth value, or false without it. -/
def flagField (m : Message) (place : Nat) (name : String) : Reading Bool := do
  match ← field m place name with
  | some (.bool b) => return b
  | none => return false
  | _ => throw (.bare 422)

/-- A list holds no more than its fields. -/
def ends (m : Message) (fields : Nat) : Reading Unit :=
  match m.body with
  | some (.array items) => if fields < items.length then .error (.bare 400) else .ok ()
  | _ => .ok ()

/-- What is wrong with a field. -/
def invalid (name reason : String) : Answer := .ofFault (.validation (name ++ ": " ++ reason))

/-- A text that is not empty. -/
def someSql (sql : String) : Reading String :=
  if sql.isEmpty then .error (invalid "sql" "No SQL provided.") else .ok sql

/-- The SQL text of a body that holds nothing else. -/
def sqlField (m : Message) : Reading String := do
  let sql ← textField m 0 "sql"
  ends m 1
  someSql sql

/-- The SQL text of a body and whether its statements are reviewed, too. -/
def analysisFields (m : Message) : Reading (String × Bool) := do
  let sql ← textField m 0 "sql"
  let perStatement ← flagField m 1 "perStatement"
  ends m 2
  return (← someSql sql, perStatement)

/-- The script of a body. -/
def scriptField (m : Message) : Reading String := do
  let script ← textField m 0 "script"
  ends m 1
  if isBlankText script then throw (invalid "script" "No SQL found in the uploaded script.")
  return script

/-! ## §5. Queries -/

/-- How many entries are shown if nothing else is asked for. -/
def defaultEntries : Nat := 100

/-- The greatest number of entries that can be asked for. -/
def mostEntries : Nat := 1000

/-- How many entries are asked for. -/
def entriesLimit (m : Message) : Reading Nat :=
  match (Percent.formFields m.query).filter (·.1 == "limit".toList) with
  | [] => .ok defaultEntries
  | [(_, value)] =>
    match number? bound64 value with
    | none => .error (.bare 400)
    | some n =>
      if 1 ≤ n ∧ n ≤ mostEntries then .ok n
      else .error (invalid "limit" "limit must be between 1 and 1000")
  | _ => .error (.bare 400)

/-! ## §6. Requests -/

/-- What the service can be asked. -/
inductive Request where
  | health
  | openSession
  | closeSession (id : Uuid)
  | setScript (id : Uuid) (script : String)
  | showWorkflow (id : Uuid)
  | step (id : Uuid) (command : Workflow.Command)
  | analyzeSession (id : Uuid)
  | analyze (sql : String) (perStatement : Bool)
  | compare (sql : String)
  | preview (sql : String)
  | showHistory (limit : Nat)
  | clearHistory
deriving DecidableEq, Repr

/-- Reads what is asked at an endpoint. -/
def Endpoint.read (m : Message) : Endpoint → String → Reading Request
  | health, "GET" => .ok .health
  | sessions, "POST" => .ok .openSession
  | session id, "DELETE" => return .closeSession (← sessionOf id)
  | script id, "PUT" => do
    let session ← sessionOf id
    return .setScript session (← scriptField m)
  | workflow id, "GET" => return .showWorkflow (← sessionOf id)
  | step id action, "POST" => do
    let id ← parameter id
    let action ← parameter action
    let session ← identifier id
    return .step session (← commandOf (String.ofList action))
  | sessionAnalysis id, "GET" => return .analyzeSession (← sessionOf id)
  | analysis, "POST" => do
    let (sql, perStatement) ← analysisFields m
    return .analyze sql perStatement
  | compare, "POST" => return .compare (← sqlField m)
  | preview, "POST" => return .preview (← sqlField m)
  | history, "GET" => return .showHistory (← entriesLimit m)
  | history, "DELETE" => .ok .clearHistory
  | _, _ => .error (.bare 405)

/-- Reads a message. -/
def Request.read (m : Message) (method : String) : Reading Request :=
  match Endpoint.ofPath? m.path with
  | some endpoint => endpoint.read m method
  | none => .error (.bare 404)

end ScriptGate.Service
