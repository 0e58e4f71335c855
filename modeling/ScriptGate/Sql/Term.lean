/-
  ScriptGate.Sql.Term — terms: operands, operators and the forms with a grammar of their own.

  A word at the start of a term may open such a form (CASE, CAST, EXTRACT, …) or be a plain name.
  The form is tried first; a word that opens none is a name, and so is one whose form does not
  fit, unless it is reserved.
-/
import ScriptGate.Sql.Call
import ScriptGate.Sql.Operator
import ScriptGate.Sql.TypeName

namespace ScriptGate.Sql

open Rule

/-! ## §1. Names and calls -/

/-- A name, a qualified name or a call, behind its first word. -/
def nameOrCall (g : Grammar) (w : Word) : Rule Term := do
  match ← ahead with
  | .sign s :: _ =>
    if s == "(" then
      call g
      return .other
    if s == "." then
      while? do
        if ← sign? "." then
          require (← take? isNameToken)
          return true
        return false
      if ← sees (Token.isSign "(") then call g
      return .other
    return .name w.text w.quote.isSome
  | .literal kind _ :: _ =>
    if w.text.startsWith "_" && (kind == .plain || kind == .hex) then
      skip
      return .other
    return .name w.text w.quote.isSome
  | _ => return .name w.text w.quote.isSome

/-! ## §2. Forms with a grammar of their own -/

/-- CASE behind its keyword. -/
def caseForm (g : Grammar) : Rule Unit := do
  if !(← keyword? "WHEN") then
    let _ ← g.anyTerm
    keyword "WHEN"
  let _ ← separated (keyword? "WHEN") do
    let _ ← g.anyTerm
    keyword "THEN"
    g.anyTerm
  let _ ← behind? "ELSE" g.anyTerm
  keyword "END"

/-- CONVERT: a value and a type, or a value and a character set. -/
def convertForm (g : Grammar) : Rule Unit :=
  parenthesized do
    let _ ← g.anyTerm
    if ← keyword? "USING" then ignored path
    else
      sign ","
      let _ ← g.wholeType
      if ← keywords? ["CHARACTER", "SET"] then ignored path

/-- CAST: a value and a type, perhaps with a format. -/
def castForm (g : Grammar) : Rule Unit :=
  parenthesized do
    let _ ← g.anyTerm
    keyword "AS"
    let _ ← g.wholeType
    if ← keyword? "FORMAT" then
      anyValue
      if ← keywords? ["AT", "TIME", "ZONE"] then anyValue

/-- EXTRACT: a part of a date. -/
def extractForm (g : Grammar) : Rule Unit :=
  parenthesized do
    let _ ← datePart
    require ((← keyword? "FROM") || (← sign? ","))
    ignored g.anyTerm

/-- CEIL and FLOOR, to a part of a date or to a number of places. -/
def roundForm (g : Grammar) : Rule Unit :=
  parenthesized do
    let _ ← g.anyTerm
    if ← keyword? "TO" then ignored datePart
    else if ← sign? "," then require ((← value) == .number)

/-- POSITION with IN. -/
def positionForm (g : Grammar) : Rule Unit :=
  parenthesized do
    let _ ← g.term betweenBinding
    keyword "IN"
    ignored g.anyTerm

/-- SUBSTRING with FROM and FOR, or with commas. -/
def substringForm (g : Grammar) : Rule Unit :=
  parenthesized do
    let _ ← g.anyTerm
    if (← sign? ",") || (← keyword? "FROM") then ignored g.anyTerm
    if (← keyword? "FOR") || (← sign? ",") then ignored g.anyTerm

/-- OVERLAY. -/
def overlayForm (g : Grammar) : Rule Unit :=
  parenthesized do
    let _ ← g.anyTerm
    keyword "PLACING"
    let _ ← g.anyTerm
    keyword "FROM"
    let _ ← g.anyTerm
    ignored (behind? "FOR" g.anyTerm)

/-- TRIM. -/
def trimForm (g : Grammar) : Rule Unit :=
  parenthesized do
    let _ ← oneOf? ["BOTH", "LEADING", "TRAILING"]
    let _ ← g.anyTerm
    if ← keyword? "FROM" then ignored g.anyTerm
    else if ← sign? "," then g.terms

/-- MATCH … AGAINST. -/
def matchForm : Rule Unit := do
  columnList
  keyword "AGAINST"
  parenthesized do
    anyValue
    if ← keywords? ["IN", "NATURAL", "LANGUAGE", "MODE"] then
      ignored (keywords? ["WITH", "QUERY", "EXPANSION"])
    else
      ignored (anyKeywords? [["IN", "BOOLEAN", "MODE"], ["WITH", "QUERY", "EXPANSION"]])

/-- A structure: its values may have names if its fields have no types. -/
def structForm (g : Grammar) : Rule Unit := do
  let (fields, trailing) ← structFields? g
  require !trailing
  parenthesized <| ignored <| commaSeparated do
    let _ ← g.anyTerm
    if ← keyword? "AS" then
      require (fields == 0)
      ignored name

/-- A key and its value. -/
def pair (g : Grammar) (key : Rule Unit) : Rule Unit := do
  key
  sign ":"
  ignored g.anyTerm

/-- An array behind its opening bracket. -/
def array (g : Grammar) : Rule Unit := do
  let _ ← commaSeparatedBefore "]" g.anyTerm
  sign "]"

/-- The form that the word `w` opens, behind that word.  Nothing, if it opens none. -/
def form? (g : Grammar) (w : Word) : Rule (Option Term) := do
  let done (r : Rule Unit) : Rule (Option Term) := do r; return some .other
  let t ← peek
  match w.keyword with
  | "TRUE" | "FALSE" | "NULL" | "CURRENT_CATALOG" | "CURRENT_USER" | "SESSION_USER" | "USER" =>
    return some .other
  | "CURRENT_TIMESTAMP" | "CURRENT_TIME" | "CURRENT_DATE" | "LOCALTIME" | "LOCALTIMESTAMP" =>
    done do if ← sign? "(" then ignored (arguments g)
  | "CASE" => done (caseForm g)
  | "CONVERT" | "TRY_CONVERT" => done (convertForm g)
  | "CAST" | "TRY_CAST" | "SAFE_CAST" => done (castForm g)
  | "EXISTS" => done g.parenthesizedQuery
  | "EXTRACT" => done (extractForm g)
  | "CEIL" | "FLOOR" => done (roundForm g)
  | "POSITION" =>
    if t == some (.sign "(") then
      done do if (← maybe (positionForm g)).isNone then call g
    else return none
  | "SUBSTRING" => done (substringForm g)
  | "OVERLAY" => done (overlayForm g)
  | "TRIM" => done (trimForm g)
  | "INTERVAL" => done (interval g)
  | "ARRAY" =>
    if t == some (.sign "[") then done do skip; array g
    else if t == some (.sign "(") then done g.parenthesizedQuery
    else return none
  | "NOT" =>
    done do
      if ← keyword? "EXISTS" then g.parenthesizedQuery
      else ignored (g.term notBinding)
  | "MATCH" => done matchForm
  | "STRUCT" => done (structForm g)
  | "PRIOR" =>
    if (← context).hierarchy then done (ignored (g.term priorBinding)) else return none
  | "MAP" =>
    if t == some (.sign "\x7b") then
      done do
        skip
        ignored (commaSeparatedBefore "\x7d" (pair g (ignored g.anyTerm)))
        sign "\x7d"
    else return none
  | _ => return none

/-- The words that open a form and are never a plain name. -/
def formOnly : List String := ["EXISTS", "INTERVAL", "STRUCT", "TRIM"]

/-- A term that opens with the word `w`, behind that word, and whether it may be collated: a word
    whose form does not fit is a plain name, and no collation may follow that. -/
def wordTerm (g : Grammar) (w : Word) : Rule (Term × Bool) := do
  let form : Rule (Option Term × Bool) := return (← form? g w, true)
  let plain : Rule (Option Term × Bool) := return (some (← nameOrCall g w), false)
  match ← if formOnly.contains w.keyword then form else orElse form plain with
  | (some t, collatable) => return (t, collatable)
  | (none, collatable) => return (← nameOrCall g w, collatable)

/-! ## §3. Operands -/

/-- A string with its type in front, or an interval. -/
def typedText (g : Grammar) : Rule Unit := do
  match ← g.wholeType with
  | .interval => interval g
  | .builtin => ignored text
  | .custom => refuse

/-- Is a query ahead? -/
def seesQuery : Rule Bool := sees (Token.isKeywordOf ["SELECT", "WITH"])

/-- What stands between parentheses: a query, a term or a tuple of terms; behind the closing one a
    point and the name of a component may follow. -/
def parenthesizedOperand (g : Grammar) : Rule Unit := do
  if ← seesQuery then ignored g.query else g.terms
  sign ")"
  if ← sign? "." then
    match ← next with
    | .word _ => return
    | _ => refuse

/-- What stands behind an opening brace: a call marked as a function, or one or more named
    values. -/
def braces (g : Grammar) : Rule Unit := do
  let marked ← maybe do
    keyword "FN"
    let _ ← path
    call g
  if marked.isNone then ignored (commaSeparated (pair g (ignored name)))
  sign "\x7d"

/-- An operand without a collation behind it, and whether it may have one. -/
def bareOperand (g : Grammar) : Rule (Term × Bool) := do
  let done (r : Rule Unit) : Rule (Term × Bool) := do r; return (.other, true)
  let t ← peek
  match t with
  | some (.word w) =>
    skip
    wordTerm g w
  | some (.sign s) =>
    match s with
    | "[" => done do skip; array g
    | "-" | "+" => done do skip; ignored (g.term leadingSignBinding)
    | "(" => done do skip; parenthesizedOperand g
    | ":" | "@" => done anyValue
    | "\x7b" => done do skip; braces g
    | _ => refuse
  | some _ => done anyValue
  | none => refuse

/-- An operand. -/
def operand (g : Grammar) : Rule Term := do
  if (← maybe (typedText g)).isSome then return .other
  let (t, collatable) ← bareOperand g
  if collatable then
    if ← keyword? "COLLATE" then
      let _ ← path
      return .other
  return t

/-! ## §4. Operators -/

/-- The right side of a binary operator, which may be quantified if the operator compares. -/
def rightSide (g : Grammar) (compares : Bool) (above : Nat) : Rule Unit := do
  if (← oneOf? ["ANY", "ALL", "SOME"]).isSome then
    let ts ← ahead
    if (ts.drop 1).head?.any (Token.isKeywordOf ["SELECT", "WITH"]) then
      require (ts.head? == some (.sign "("))
      ignored (g.term above)
    else parenthesized (ignored (g.term above))
    require compares
  else ignored (g.term above)

/-- The name of an operator in parentheses, behind the keyword OPERATOR. -/
def operatorName : Rule Unit :=
  parenthesized (ignored (separated (sign? ".") next))

/-- A condition behind IS. -/
def isCondition (g : Grammar) : Rule Unit := do
  if ← anyKeywords? [["NULL"], ["NOT", "NULL"], ["TRUE"], ["NOT", "TRUE"], ["FALSE"],
      ["NOT", "FALSE"], ["UNKNOWN"], ["NOT", "UNKNOWN"]] then return
  require (← anyKeywords? [["DISTINCT", "FROM"], ["NOT", "DISTINCT", "FROM"]])
  ignored g.anyTerm

/-- What a value is looked for in, behind IN. -/
def membership (g : Grammar) : Rule Unit := do
  if ← keyword? "UNNEST" then g.parenthesizedTerm
  else
    parenthesized do
      if ← seesQuery then ignored g.query else g.terms

/-- A pattern behind LIKE and its kin. -/
def likePattern (g : Grammar) : Rule Unit := do
  let _ ← g.term likeBinding
  ignored (behind? "ESCAPE" text)

/-- A condition that NOT may stand in front of. -/
def negatable (g : Grammar) : Rule Unit := do
  let _ ← keyword? "NOT"
  if ← keyword? "REGEXP" then
    let _ ← keyword? "RLIKE"
    ignored (g.term likeBinding)
  else if ← keyword? "RLIKE" then ignored (g.term likeBinding)
  else if ← keyword? "IN" then membership g
  else if ← keyword? "BETWEEN" then
    let _ ← g.term betweenBinding
    keyword "AND"
    ignored (g.term betweenBinding)
  else if ← keyword? "LIKE" then
    let _ ← keyword? "ANY"
    likePattern g
  else if ← keyword? "ILIKE" then
    let _ ← keyword? "ANY"
    likePattern g
  else
    keywords ["SIMILAR", "TO"]
    likePattern g

/-- A subscript or a slice behind its opening bracket. -/
def subscript (g : Grammar) : Rule Unit := do
  let lower ← boundBefore
  if ← sign? "]" then return
  if lower then sign ":"
  if ← sign? "]" then return
  let _ ← g.anyTerm
  if ← sign? "]" then return
  sign ":"
  if ← sign? "]" then return
  let _ ← g.anyTerm
  sign "]"
where
  /-- The lower bound, if it is not left out. -/
  boundBefore : Rule Bool := do
    if ← sign? ":" then return false
    let _ ← g.anyTerm
    return true

/-- The operator ahead with its right side; it binds as tightly as `above`. -/
def operatorBehind (g : Grammar) (above : Nat) : Rule Unit := do
  let t ← peek
  match t with
  | some (.sign s) =>
    skip
    if s == "::" then ignored g.wholeType
    else if s == "[" then subscript g
    else
      require (signBindings.lookup s).isSome
      rightSide g (comparisons.contains s) above
  | some (.word w) =>
    match w.keyword with
    | "AND" | "OR" | "XOR" => skip; rightSide g false above
    | "OPERATOR" => skip; operatorName; rightSide g false above
    | "IS" => skip; isCondition g
    | "AT" => keywords ["AT", "TIME", "ZONE"]; ignored (g.term above)
    | "DIV" => refuse
    | _ => negatable g
  | _ => refuse

/-- A term whose operators bind more tightly than `above`. -/
def term (g : Grammar) (above : Nat) : Rule Term := nested do
  let first ← operand g
  let operators ← repeated do
    let tightness := binding (← ahead)
    if tightness ≤ above then return none
    operatorBehind g tightness
    return some ()
  return if operators.isEmpty then first else .other

end ScriptGate.Sql
