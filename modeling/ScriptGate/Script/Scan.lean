/-
  ScriptGate.Script.Scan — where the statements of a script end.

  A script is a text of several statements.  A semicolon ends a statement unless it stands in a
  string literal, a quoted identifier, a dollar-quoted body or a comment; comments are dropped.
  The scanner is an automaton over the characters: `Mode` says what the scan is inside of,
  `Scanner` adds the text of the open fragment and the fragments already closed.

  Main statements:
    - `run_nil`, `run_cons` — the scan goes character by character, looking ahead only where a
                              comment or a dollar quote may open.
-/
import ScriptGate.Text.Trim

namespace ScriptGate.Script

open ScriptGate.Text

/-! ## §1. Modes -/

/-- What the scan stands inside of. -/
inductive Mode where
  /-- between tokens or in a plain one: here a semicolon ends the statement -/
  | top
  /-- right behind the closing quote of a literal; another quote goes on with the same literal,
      `escapes` telling its kind.  In all else this is `top`. -/
  | closed (escapes : Bool)
  /-- inside a literal; in an escape string a backslash shields the next character -/
  | literal (escapes : Bool)
  /-- behind a backslash of an escape string -/
  | shielded
  /-- inside a quoted identifier -/
  | quoted
  /-- inside a dollar quote.  `opener` characters are still read as part of the opening
      delimiter, `delimiter` is the delimiter read backwards and `body` the body so far,
      backwards too. -/
  | dollar (delimiter : List Char) (opener : Nat) (body : List Char)
  /-- inside a comment that the end of the line closes -/
  | lineComment
  /-- on the star of an opening comment bracket -/
  | commentBracket
  /-- inside a bracketed comment; `star` tells whether the last character was a star -/
  | comment (star : Bool)
deriving DecidableEq, Repr

/-- May a semicolon end the statement here? -/
def Mode.isTop : Mode → Bool
  | top | closed _ => true
  | _ => false

/-! ## §2. The scanner -/

/-- The automaton between two characters. -/
structure Scanner where
  /-- what it stands inside of -/
  mode : Mode
  /-- the open fragment, last character first -/
  current : List Char
  /-- the closed fragments, last one first -/
  closed : List (List Char)
deriving DecidableEq, Repr

namespace Scanner

/-- Before the first character. -/
def start : Scanner := ⟨.top, [], []⟩

/-- The open fragment takes `c` and the scan goes on in `mode`. -/
def push (s : Scanner) (c : Char) (mode : Mode) : Scanner :=
  { s with mode, current := c :: s.current }

/-- Closes the open fragment; one that is blank is dropped. -/
def cut (s : Scanner) : Scanner :=
  let fragment := trim s.current.reverse
  ⟨.top, [], if fragment.isEmpty then s.closed else fragment :: s.closed⟩

end Scanner

/-- Does a quote behind `current` open an escape string?  It does right behind an `E` that is
    a word of its own. -/
def opensEscapes : List Char → Bool
  | c :: rest => (c == 'E' || c == 'e') && !(rest.head?.any isNameChar)
  | [] => false

/-- The tag of a dollar quote whose first dollar sign has just been read. -/
def dollarTag? (ahead : List Char) : Option (List Char) :=
  match ahead.dropWhile isNameChar with
  | '$' :: _ => some (ahead.takeWhile isNameChar)
  | _ => none

/-- How many characters behind its first dollar sign an opening delimiter takes: one for every
    byte of the tag's UTF-8 form and one for the second dollar sign.  A tag beyond ASCII so takes
    the first characters of the body along. -/
def openerLength (tag : List Char) : Nat := tag.foldl (fun n c => n + c.utf8Size) 1

/-- The mode behind a dollar sign at top level.  A dollar sign inside a name opens nothing. -/
def dollarMode (current ahead : List Char) : Mode :=
  if current.head?.any isNameChar then .top
  else
    match dollarTag? ahead with
    | some tag => .dollar ('$' :: tag.reverse ++ ['$']) (openerLength tag) []
    | none => .top

/-- Reads `c` at top level.  A quote opens a literal of the kind `quote`. -/
def readTop (s : Scanner) (quote : Bool) (c : Char) (ahead : List Char) : Scanner :=
  match c with
  | '\'' => s.push c (.literal quote)
  | '"' => s.push c .quoted
  | '$' => s.push c (dollarMode s.current ahead)
  | ';' => s.cut
  | '-' => if ahead.head? == some '-' then { s with mode := .lineComment } else s.push c .top
  | '/' => if ahead.head? == some '*' then { s with mode := .commentBracket } else s.push c .top
  | _ => s.push c .top

/-- Reads one character; `ahead` is the text behind it. -/
def Scanner.read (s : Scanner) (c : Char) (ahead : List Char) : Scanner :=
  match s.mode with
  | .top => readTop s (opensEscapes s.current) c ahead
  | .closed escapes => readTop s escapes c ahead
  | .literal escapes =>
    if c == '\'' then s.push c (.closed escapes)
    else if c == '\\' && escapes then s.push c .shielded
    else s.push c (.literal escapes)
  | .shielded => s.push c (.literal true)
  | .quoted => s.push c (if c == '"' then .top else .quoted)
  | .dollar delimiter (n + 1) body => s.push c (.dollar delimiter n body)
  | .dollar delimiter 0 body =>
    let body := c :: body
    s.push c (if delimiter.isPrefixOf body then .top else .dollar delimiter 0 body)
  | .lineComment => if c == '\n' then s.push c .top else s
  | .commentBracket => { s with mode := .comment false }
  | .comment star =>
    if star && c == '/' then s.push ' ' .top else { s with mode := .comment (c == '*') }

/-- Reads a text to its end. -/
def Scanner.run (s : Scanner) : List Char → Scanner
  | [] => s
  | c :: ahead => (s.read c ahead).run ahead

@[simp] theorem run_nil (s : Scanner) : s.run [] = s := rfl

@[simp] theorem run_cons (s : Scanner) (c : Char) (ahead : List Char) :
    s.run (c :: ahead) = (s.read c ahead).run ahead := rfl

/-! ## §3. Fragments -/

/-- The fragments of a script: its statements, trimmed, without comments, in order. -/
def fragments (script : List Char) : List (List Char) :=
  (Scanner.start.run script).cut.closed.reverse

/-- The statements of a script. -/
def statements (script : String) : List String :=
  (fragments script.toList).map String.ofList

end ScriptGate.Script
