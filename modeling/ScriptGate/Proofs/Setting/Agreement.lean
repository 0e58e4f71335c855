/-
  ScriptGate.Proofs.Setting.Agreement — one connection, configured in two ways.

  A connection is described by a location, in which names are escaped, or by a variable for each of
  its parts.  The variables are taken as they are.  The parts of the location are taken as they are
  as well, and that is escaped; a machine that only takes encrypted connections is known by its
  name in a location alone; and a database whose name is a step in the path is lost.
  Main statements:
    - `ofEnvironment?_described`, `ofEnvironment?_located` — what either way comes to;
    - `connection_agrees_iff` — exactly which connections come to the same in both.
-/
import ScriptGate.Proofs.Setting.Parts
import ScriptGate.Setting.Settings

namespace ScriptGate.Setting

open ScriptGate.Text ScriptGate.Text.Percent

/-! ## §1. Two ways to configure a connection -/

/-- The variables once one of them is set to a text, or is not set. -/
def Environment.setting (env : Environment) (name : String) (value : Option String) :
    Environment :=
  fun asked => if asked = name then value else env asked

/-- What there is to say about a connection. -/
structure Access where
  /-- the machine -/
  host : String
  /-- the port -/
  port : Nat
  /-- who connects -/
  user : String
  /-- the password, which may be empty -/
  password : String
  /-- the database -/
  database : String
  /-- must connections be encrypted? -/
  tls : Bool
  /-- there is a machine -/
  host_ne : host.toList ≠ []
  /-- it has a plain name -/
  host_plain : ∀ c ∈ host.toList, Host.isPlain c = true
  /-- the port is one -/
  port_le : port ≤ bound16
  /-- somebody connects -/
  user_ne : user.toList ≠ []
  /-- there is a database -/
  database_ne : database.toList ≠ []

namespace Access

/-- The location of the connection, with its names escaped. -/
def location (a : Access) : String :=
  String.ofList (spelled (component a.user.toList) (component a.password.toList) a.host.toList
    a.port (component a.database.toList) a.tls)

/-- The variables with the location of the connection among them. -/
def located (a : Access) (base : Environment) : Environment :=
  base.setting "DATABASE_URL" (some a.location)

/-- The variables with the parts of the connection among them. -/
def described (a : Access) (base : Environment) : Environment :=
  (((((((base.setting "DATABASE_URL" none).setting "DB_HOST" (some a.host)).setting
    "DB_PORT" (some (toString a.port))).setting "DB_USER" (some a.user)).setting
    "DB_PASSWORD" (some a.password)).setting "DB_NAME" (some a.database)).setting
    "DB_SSLMODE" (if a.tls then some Connection.require else none))

/-- The connection as it is meant. -/
def plain (a : Access) (poolSize : Nat) : Connection where
  host := a.host
  port := a.port
  user := a.user
  password := a.password
  database := a.database
  poolSize
  requireTls := a.tls

/-- The connection with its names escaped; the machine may ask for encryption on its own. -/
def escaped (a : Access) (poolSize : Nat) : Connection where
  host := a.host
  port := a.port
  user := String.ofList (component a.user.toList)
  password := String.ofList (component a.password.toList)
  database := String.ofList (component a.database.toList)
  poolSize
  requireTls := Connection.isManaged a.host || a.tls

/-- Is the database named like a step in a path? -/
def isStep (a : Access) : Bool :=
  a.database.toList == List.replicate 1 '.' || a.database.toList == List.replicate 2 '.'

end Access

/-- How many connections the variables allow. -/
def poolSizeOf (base : Environment) : Nat := base.numberOr "DB_MAX_CONNECTIONS" bound64 10

/-- The connection among the settings that the variables describe. -/
def loaded (env : Environment) : Except Rejection Connection :=
  (Settings.ofEnvironment? env).map Settings.connection

/-- Where the rollout is described well, the connection alone decides. -/
theorem loaded_eq {env : Environment} {rollout : Rollout}
    (h : Rollout.ofEnvironment? env = .ok rollout) :
    loaded env = Connection.ofEnvironment? env := by
  unfold loaded Settings.ofEnvironment?
  rw [h]
  cases Connection.ofEnvironment? env <;> rfl

/-- Neither way says anything about the rollout. -/
theorem rollout_located (a : Access) (base : Environment) :
    Rollout.ofEnvironment? (a.located base) = Rollout.ofEnvironment? base := rfl

theorem rollout_described (a : Access) (base : Environment) :
    Rollout.ofEnvironment? (a.described base) = Rollout.ofEnvironment? base := rfl

/-! ## §2. What either way comes to -/

/-- The variables for the parts say what is meant. -/
theorem ofEnvironment?_described (a : Access) (base : Environment) :
    Connection.ofEnvironment? (a.described base) = .ok (a.plain (poolSizeOf base)) := by
  have hport : (a.described base).numberOr "DB_PORT" bound16 Connection.defaultPort = a.port := by
    show ((some (toString a.port)).bind fun s => number? bound16 s.toList).getD _ = a.port
    rw [Option.bind_some, number?_toString a.port_le, Option.getD_some]
  have htls : ((a.described base) "DB_SSLMODE").any (fun mode =>
      mode.toList.map Char.toLower == Connection.require.toList) = a.tls := by
    show (if a.tls then some Connection.require else none).any _ = a.tls
    cases a.tls <;> decide
  show Except.ok (Connection.ofParts (a.described base) (poolSizeOf base)) = _
  rw [Connection.ofParts, hport, htls]
  rfl

/-- The path to a database is lost exactly where its name is a step. -/
theorem dropSlashes_pathTo (a : Access) :
    (pathTo (component a.database.toList)).dropWhile (· == '/')
      = if a.isStep then [] else component a.database.toList := by
  have hstep : (isUp (component a.database.toList) || isHere (component a.database.toList)) = true
      ↔ a.isStep = true := by
    rw [Access.isStep, isUp, isHere, Bool.or_eq_true, Bool.or_eq_true, beq_iff_eq, beq_iff_eq,
      beq_iff_eq, beq_iff_eq, points_component, points_component, or_comm]
  -- a name that is escaped holds no slash, so only the one in front is dropped
  have hslash : ∀ c ∈ component a.database.toList, (c == '/') = false := fun c hc =>
    beq_eq_false_iff_ne.2 ((unmarked_of_component isComponentChar_component).ne hc (by decide))
  unfold pathTo
  split
  · rename_i hlost
    rw [if_pos (hstep.1 hlost)]
    rfl
  · rename_i hkept
    rw [if_neg (mt hstep.2 hkept), List.dropWhile_cons_of_pos (by decide)]
    obtain ⟨c, rest, hcons⟩ := List.exists_cons_of_ne_nil (component_ne_nil a.database_ne)
    rw [hcons] at hslash ⊢
    exact List.dropWhile_cons_of_neg (Bool.eq_false_iff.1 (hslash c List.mem_cons_self))

theorem asksForTls_tlsQuery (tls : Bool) :
    Connection.asksForTls ((tlsQuery tls).drop 1) = tls := by
  cases tls <;> decide +kernel

/-- The location says it escaped. -/
theorem ofEnvironment?_located (a : Access) (base : Environment) :
    Connection.ofEnvironment? (a.located base)
      = if a.isStep then .error .noDatabase else .ok (a.escaped (poolSizeOf base)) := by
  have huser : Connection.textOr Connection.defaultUser (component a.user.toList)
      = String.ofList (component a.user.toList) := by
    rw [Connection.textOr, List.isEmpty_eq_false_iff.2 (component_ne_nil a.user_ne)]
    rfl
  have hhost : (Host.name a.host.toList).text = a.host := String.ofList_toList
  -- the location is asked for first, so the variables of the parts have no say
  show Connection.ofLocation? (poolSizeOf base) a.location = _
  unfold Connection.ofLocation? Access.location
  rw [String.toList_ofList, ofChars?_spelled isComponentChar_component isComponentChar_component
    a.host_plain isComponentChar_component a.host_ne a.port_le]
  simp only [dropSlashes_pathTo, asksForTls_tlsQuery, huser, hhost]
  cases a.isStep with
  | true => rfl
  | false =>
    rw [if_neg Bool.false_ne_true, if_neg Bool.false_ne_true,
      List.isEmpty_eq_false_iff.2 (component_ne_nil a.database_ne)]
    rfl

/-! ## §3. Where the two agree -/

/-- A name that is written as it is. -/
def isUnescaped (name : String) : Bool := name.toList.all isUnreserved

theorem ofList_component_eq_iff (name : String) :
    String.ofList (component name.toList) = name ↔ isUnescaped name = true := by
  rw [← String.toList_inj, String.toList_ofList, component_eq_self_iff, isUnescaped,
    List.all_eq_true]

/-- The escaped connection is the one that is meant if nothing had to be escaped, and the machine
    does not ask for encryption against what is said. -/
theorem escaped_eq_plain_iff (a : Access) (poolSize : Nat) :
    a.escaped poolSize = a.plain poolSize ↔
      (isUnescaped a.user ∧ isUnescaped a.password ∧ isUnescaped a.database) ∧
        (Connection.isManaged a.host → a.tls) := by
  have htls : (Connection.isManaged a.host || a.tls) = a.tls ↔
      (Connection.isManaged a.host → a.tls) := by
    cases Connection.isManaged a.host <;> cases a.tls <;> decide
  rw [Access.escaped, Access.plain, Connection.mk.injEq, ofList_component_eq_iff,
    ofList_component_eq_iff, ofList_component_eq_iff, htls]
  constructor
  · rintro ⟨-, -, huser, hpassword, hdatabase, -, hmanaged⟩
    exact ⟨⟨huser, hpassword, hdatabase⟩, hmanaged⟩
  · rintro ⟨⟨huser, hpassword, hdatabase⟩, hmanaged⟩
    exact ⟨rfl, rfl, huser, hpassword, hdatabase, rfl, hmanaged⟩

/-- **Exactly which connections come to the same in both ways.**  The variables for the parts give
    the connection that is meant.  The location gives it escaped, or none if the database is
    named like a step; so the two agree where no name needs an escape, the database is not named
    like a step, and a machine that only takes encrypted connections is asked for them. -/
theorem connection_agrees_iff (a : Access) {base : Environment} {rollout : Rollout}
    (h : Rollout.ofEnvironment? base = .ok rollout) :
    loaded (a.described base) = .ok (a.plain (poolSizeOf base)) ∧
      loaded (a.located base)
        = (if a.isStep then .error .noDatabase else .ok (a.escaped (poolSizeOf base))) ∧
      (loaded (a.located base) = loaded (a.described base) ↔
        (isUnescaped a.user ∧ isUnescaped a.password ∧ isUnescaped a.database) ∧
          a.isStep = false ∧ (Connection.isManaged a.host → a.tls)) := by
  have hdescribed : loaded (a.described base) = .ok (a.plain (poolSizeOf base)) := by
    rw [loaded_eq ((rollout_described a base).trans h), ofEnvironment?_described]
  have hlocated : loaded (a.located base)
      = (if a.isStep then .error .noDatabase else .ok (a.escaped (poolSizeOf base))) := by
    rw [loaded_eq ((rollout_located a base).trans h), ofEnvironment?_located]
  refine ⟨hdescribed, hlocated, ?_⟩
  rw [hdescribed, hlocated]
  -- a database named like a step is lost, and then there is no connection to compare
  cases hstep : a.isStep with
  | true =>
    refine iff_of_false (fun heq => ?_) fun hall => Bool.noConfusion hall.2.1
    rw [if_pos rfl] at heq
    cases heq
  | false =>
    rw [if_neg Bool.false_ne_true, Except.ok.injEq, escaped_eq_plain_iff]
    exact ⟨fun hall => ⟨hall.1, rfl, hall.2⟩, fun hall => ⟨hall.1, hall.2.2⟩⟩

/-- A password with a reserved character. -/
def guarded : Access where
  host := "db.internal"
  port := 5433
  user := "app"
  password := "p@ss"
  database := "inventory"
  tls := false
  host_ne := by decide
  host_plain := List.all_eq_true.1 (by decide)
  port_le := by decide
  user_ne := by decide
  database_ne := by decide

/-- The location keeps the escape of the password, and the variables have none. -/
theorem guarded_disagrees :
    (∃ rollout, Rollout.ofEnvironment? (fun _ => none) = .ok rollout) ∧
      loaded (guarded.located fun _ => none)
        = .ok ⟨"db.internal", 5433, "app", "p%40ss", "inventory", 10, false⟩ ∧
      loaded (guarded.described fun _ => none)
        = .ok ⟨"db.internal", 5433, "app", "p@ss", "inventory", 10, false⟩ := by
  obtain ⟨rollout, h⟩ : ∃ rollout, Rollout.ofEnvironment? (fun _ => none) = .ok rollout :=
    ⟨_, rfl⟩
  obtain ⟨hdescribed, hlocated, -⟩ := connection_agrees_iff guarded h
  refine ⟨⟨rollout, h⟩, hlocated.trans ?_, hdescribed⟩
  have hescaped : guarded.escaped (poolSizeOf fun _ => none)
      = ⟨"db.internal", 5433, "app", "p%40ss", "inventory", 10, false⟩ := by decide +kernel
  rw [if_neg (by decide +kernel), hescaped]

end ScriptGate.Setting
