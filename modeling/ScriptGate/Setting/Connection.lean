/-
  ScriptGate.Setting.Connection — how the database is reached.

  A connection is described by one location or by a variable for each of its parts.
-/
import ScriptGate.Setting.Choice
import ScriptGate.Setting.Location
import ScriptGate.Text.Pattern

namespace ScriptGate.Setting

open ScriptGate.Text

/-! ## §1. Variables -/

/-- The variables that are set. -/
abbrev Environment := String → Option String

namespace Environment

/-- The text of a variable, or a default. -/
def textOr (env : Environment) (name default : String) : String := (env name).getD default

/-- The number in a variable; whatever is none counts as the default. -/
def numberOr (env : Environment) (name : String) (bound default : Nat) : Nat :=
  ((env name).bind fun s => number? bound s.toList).getD default

end Environment

/-! ## §2. Connections -/

/-- How a database is reached. -/
structure Connection where
  /-- the machine -/
  host : String
  /-- the port -/
  port : Nat
  /-- who connects -/
  user : String
  /-- the password, which may be empty -/
  password : String
  /-- the database -/
  database : String
  /-- how many connections are kept -/
  poolSize : Nat
  /-- are connections encrypted? -/
  requireTls : Bool
deriving DecidableEq, Repr, Inhabited

namespace Connection

/-- The port that databases listen at. -/
def defaultPort : Nat := 5432

/-- Who connects where nobody is named. -/
def defaultUser : String := "postgres"

/-- How encryption is asked for. -/
def require : String := "require"

/-- Does a machine only take encrypted connections? -/
def isManaged (host : String) : Bool := (Pattern.text "neon.tech").occurs host.toList

/-- Does a query ask for encryption? -/
def asksForTls (query : List Char) : Bool :=
  (Percent.formFields query).contains ("sslmode".toList, require.toList)

/-- A text, unless it is empty. -/
def textOr (default : String) (cs : List Char) : String :=
  if cs.isEmpty then default else String.ofList cs

/-- The connection to a database at a location. -/
def ofLocation? (poolSize : Nat) (given : String) : Except Rejection Connection :=
  match Location.ofChars? given.toList with
  | none => .error .noLocation
  | some l =>
    match l.host with
    | none => .error .noMachine
    | some host =>
      let database := l.path.dropWhile (· == '/')
      if database.isEmpty then .error .noDatabase
      else .ok {
        host := host.text
        port := l.port.getD defaultPort
        user := textOr defaultUser l.user
        password := String.ofList l.password
        database := String.ofList database
        poolSize
        requireTls := isManaged host.text || asksForTls l.query }

/-- The connection that the variables for its parts describe. -/
def ofParts (env : Environment) (poolSize : Nat) : Connection where
  host := env.textOr "DB_HOST" "localhost"
  port := env.numberOr "DB_PORT" bound16 defaultPort
  user := env.textOr "DB_USER" defaultUser
  password := env.textOr "DB_PASSWORD" ""
  database := env.textOr "DB_NAME" "postgres"
  poolSize
  requireTls := (env "DB_SSLMODE").any fun mode =>
    mode.toList.map Char.toLower == require.toList

/-- The connection that the variables describe: the location decides if there is one. -/
def ofEnvironment? (env : Environment) : Except Rejection Connection :=
  let poolSize := env.numberOr "DB_MAX_CONNECTIONS" bound64 10
  match env "DATABASE_URL" with
  | some location => ofLocation? poolSize location
  | none => .ok (ofParts env poolSize)

end Connection

end ScriptGate.Setting
