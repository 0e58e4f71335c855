/-
  ScriptGate.Sql.Name — names, literals and aliases.
-/
import ScriptGate.Sql.Grammar

namespace ScriptGate.Sql

open Rule

/-! ## §1. Names -/

/-- A word as it is written. -/
def Word.shown (w : Word) : String :=
  match w.quote with
  | some q => String.singleton q ++ w.text ++ String.singleton q
  | none => w.text

/-- A name, as it is written.  Any word will do, and so will a plain literal. -/
def name : Rule String := do
  match ← next with
  | .word w => return w.shown
  | .literal .plain s => return "'" ++ s ++ "'"
  | _ => refuse

/-- A name with the schemas it lies in. -/
def path : Rule (List String) := separated (sign? ".") name

/-- Names with commas between. -/
def names : Rule Unit := ignored (commaSeparated name)

/-- Paths with commas between. -/
def paths : Rule Unit := ignored (commaSeparated path)

/-- Columns in parentheses. -/
def columnList : Rule Unit := parenthesized names

/-- Columns in parentheses, or nothing; tells whether there were any. -/
def columnList? : Rule Bool := do
  if ← sees (Token.isSign "(") then
    columnList
    return true
  return false

/-- A name, if the next token is one. -/
def name? : Rule (Option String) := maybe name

/-- A name; where none stands, the token in its place is dropped. -/
def nameOrToken : Rule Bool := do
  if (← name?).isSome then return true
  skip
  return false

/-- A path that may break off: where a name is missing, the token in its place is dropped and the
    path ends. -/
def brokenPath : Rule Unit :=
  while? do
    if ← nameOrToken then sign? "." else return false

/-- `IF EXISTS`, if it is there. -/
def ifExists? : Rule Unit := ignored (keywords? ["IF", "EXISTS"])

/-- `IF NOT EXISTS`, if it is there. -/
def ifNotExists? : Rule Bool := keywords? ["IF", "NOT", "EXISTS"]

/-! ## §2. Literals -/

/-- A string: a literal, or a word that is no keyword. -/
def text : Rule String := do
  match ← next with
  | .word w => do require (w.keyword == ""); return w.text
  | .literal .plain s | .literal .escape s | .literal .unicode s => return s
  | _ => refuse

/-- A plain string literal. -/
def plainText : Rule String := do
  match ← next with
  | .literal .plain s => return s
  | _ => refuse

/-- A string of one byte. -/
def character : Rule Unit := do require ((← text).utf8ByteSize == 1)

/-- A natural number up to `greatest`, written in digits alone. -/
def naturalUpTo (greatest : Nat) : Rule Unit := do
  match ← next with
  | .number ds _ => require (ds.toList.all Char.isDigit && ds.toNat?.any (· ≤ greatest))
  | _ => refuse

/-- A natural number of at most 64 bits. -/
def natural : Rule Unit := naturalUpTo 18446744073709551615

/-- A natural number of at most 32 bits. -/
def smallNatural : Rule Unit := naturalUpTo 4294967295

/-- A natural number in parentheses, or nothing. -/
def precision? : Rule Unit := do
  if ← sees (Token.isSign "(") then parenthesized natural

/-- One or two natural numbers in parentheses, or nothing. -/
def precisionScale? : Rule Unit := do
  if ← sees (Token.isSign "(") then
    parenthesized do
      natural
      ignored (behindSign? "," natural)
where
  /-- The rule behind a sign, if that is next. -/
  behindSign? (s : String) (r : Rule Unit) : Rule Unit := do if ← sign? s then r

/-- What is kept of a literal value. -/
inductive Value where
  /-- a number -/
  | number
  /-- a parameter -/
  | placeholder
  /-- a plain string or one in double quotes -/
  | text
  /-- a truth value, NULL or another string -/
  | other
deriving DecidableEq, Repr

/-- A literal value or a parameter; a number that names a parameter is not marked as long. -/
def value : Rule Value := do
  match ← next with
  | .word w =>
    if w.quote == some '"' then return .text
    require (["TRUE", "FALSE", "NULL"].contains w.keyword)
    return .other
  | .number _ _ => return .number
  | .literal .plain _ => return .text
  | .literal _ _ => return .other
  | .placeholder _ => return .placeholder
  | .sign s =>
    require (s == ":" || s == "@")
    match ← next with
    | .word _ | .number _ false => return .placeholder
    | _ => refuse

/-- A literal value that is not looked at. -/
def anyValue : Rule Unit := ignored value

/-- A number or a parameter. -/
def numberValue : Rule Unit := do
  let v ← value
  require (v == .number || v == .placeholder)

/-- A number with or without a sign. -/
def signedNumber : Rule Unit := do
  let _ ← take? fun t => t.isSign "+" || t.isSign "-"
  numberValue

/-! ## §3. Aliases -/

/-- An alias: behind AS any name; without it no keyword of `reserved`. -/
def alias? (reserved : List String) : Rule Bool := do
  let behindAs ← keyword? "AS"
  let fits ← take? fun
    | .word w => behindAs || !reserved.contains w.keyword
    | .literal .plain _ => true
    | _ => false
  require (fits || !behindAs)
  return fits

/-- Columns of an alias, each with a data type or without. -/
def aliasColumns? (g : Grammar) : Rule Unit := do
  if ← sees (Token.isSign "(") then
    parenthesized <| ignored <| commaSeparated do
      let _ ← name
      ignored (maybe g.wholeType)

/-- An alias of a table, with or without columns. -/
def tableAlias? (g : Grammar) : Rule Bool := do
  let found ← alias? noTableAlias
  if found then aliasColumns? g
  return found

/-! ## §4. Options -/

/-- `name = value`. -/
def option (g : Grammar) : Rule Unit := do
  if ← sees (Token.isKeyword "HEAP") then ignored name
  else if ← sees (Token.isKeyword "PARTITION") then partitionOption
  else if ← sees (Token.isKeyword "CLUSTERED") then clusteredOption
  else
    let _ ← name
    sign "="
    ignored g.anyTerm
where
  /-- `PARTITION (name RANGE LEFT FOR VALUES (…))`. -/
  partitionOption : Rule Unit := do
    keyword "PARTITION"
    parenthesized do
      let _ ← name
      keyword "RANGE"
      let _ ← oneOf? ["LEFT", "RIGHT"]
      keywords ["FOR", "VALUES"]
      g.parenthesizedTerms
  /-- `CLUSTERED COLUMNSTORE INDEX …` and its like. -/
  clusteredOption : Rule Unit := do
    if ← keywords? ["CLUSTERED", "COLUMNSTORE", "INDEX", "ORDER"] then columnList
    else if ← keywords? ["CLUSTERED", "COLUMNSTORE", "INDEX"] then return
    else
      keywords ["CLUSTERED", "INDEX"]
      parenthesized <| ignored <| commaSeparated do
        let _ ← name
        ignored (oneOf? ["ASC", "DESC"])

/-- Options in parentheses behind keywords, if these are next. -/
def options? (g : Grammar) (ks : List String) : Rule Bool := do
  if ← keywords? ks then
    parenthesized (ignored (commaSeparated (option g)))
    return true
  return false

end ScriptGate.Sql
