/-
  ScriptGate.Sql.Outline — what is kept of a parsed statement.

  The review needs few facts of a statement: its kind, and the clauses of the outermost query.
  The reader of statements builds these facts and no tree; expressions, types and table sources
  below the outermost level leave only what decides how the reading goes on.
-/

namespace ScriptGate.Sql

/-! ## §1. Below a statement -/

/-- What is kept of an expression. -/
inductive Term where
  /-- `*` -/
  | wildcard
  /-- `t.*` -/
  | qualifiedWildcard
  /-- a single name -/
  | name (text : String) (quoted : Bool)
  /-- anything else -/
  | other
deriving DecidableEq, Repr, Inhabited

/-- What is kept of a data type. -/
inductive DataType where
  /-- INTERVAL -/
  | interval
  /-- a type that goes by a name of its own -/
  | custom
  /-- a type of the language -/
  | builtin
deriving DecidableEq, Repr, Inhabited

/-- What is kept of a table source. -/
structure Source where
  /-- a join in parentheses -/
  nestedJoin : Bool := false
  /-- it has an alias -/
  aliased : Bool := false
deriving DecidableEq, Repr, Inhabited

/-! ## §2. Queries -/

/-- Clauses of a SELECT. -/
structure Select where
  /-- an unqualified star among the items -/
  wildcard : Bool
  /-- number of joins in each item of the FROM clause; no items without the clause -/
  joins : List Nat
  /-- a WHERE clause -/
  hasWhere : Bool
  /-- DISTINCT -/
  distinct : Bool
deriving DecidableEq, Repr, Inhabited

/-- The body of a query. -/
inductive Body where
  | select (s : Select)
  /-- VALUES with a number of rows -/
  | rows (n : Nat)
  /-- a set operation, a query in parentheses, a table, or a change behind WITH -/
  | other
deriving DecidableEq, Repr, Inhabited

/-- A query. -/
structure Query where
  /-- its body -/
  body : Body
  /-- an ORDER BY clause -/
  ordered : Bool := false
  /-- a LIMIT clause that sets a bound, or a FETCH clause -/
  limited : Bool := false
deriving DecidableEq, Repr, Inhabited

/-! ## §3. Statements -/

/-- A parsed statement. -/
inductive Outline where
  | query (q : Query)
  /-- an INSERT: whether it names its columns, and its number of VALUES rows -/
  | insert (namesColumns : Bool) (rows : Nat)
  /-- an UPDATE, with or without WHERE -/
  | update (hasWhere : Bool)
  /-- a DELETE, with or without WHERE and a bound of its own -/
  | delete (hasWhere limited : Bool)
  | alterTable
  | drop
  | truncate
  | createTable
  /-- the description of a statement or a table -/
  | explain
  | other
deriving DecidableEq, Repr, Inhabited

end ScriptGate.Sql
