/-
  ScriptGate.Sql.Token — the tokens of an SQL text.

  Blanks and comments separate tokens and are not tokens themselves.
-/
import ScriptGate.Sql.Keyword

namespace ScriptGate.Sql

/-- How a string literal is written. -/
inductive LiteralKind where
  /-- between single quotes -/
  | plain
  /-- with backslash escapes, behind an `E` -/
  | escape
  /-- with code points, behind `U&` -/
  | unicode
  /-- between dollar quotes -/
  | dollar
  /-- hexadecimal digits, behind an `X` or `0x` -/
  | hex
  /-- national, behind an `N` -/
  | national
  /-- bytes or raw characters, behind a `B` or an `R` -/
  | bytes
deriving DecidableEq, Repr

/-- A word: a keyword, a name or both. -/
structure Word where
  /-- the text, without the quotes -/
  text : String
  /-- the quote around it -/
  quote : Option Char := none
  /-- the keyword it spells; empty if it spells none or is quoted -/
  keyword : String := ""
deriving DecidableEq, Repr

/-- A token. -/
inductive Token where
  | word (w : Word)
  /-- a number as it is written, and whether an `L` behind it marks it as long -/
  | number (digits : String) (long : Bool)
  | literal (kind : LiteralKind) (text : String)
  | placeholder (text : String)
  | sign (text : String)
deriving DecidableEq, Repr

namespace Token

/-- The word in capitals, if it is a keyword. -/
def keyword : Token → String
  | word w => w.keyword
  | _ => ""

/-- Is this the keyword `k`? -/
def isKeyword (k : String) (t : Token) : Bool :=
  match t with
  | word w => w.keyword == k
  | _ => false

/-- Is this one of the keywords `ks`? -/
def isKeywordOf (ks : List String) (t : Token) : Bool :=
  match t with
  | word w => ks.contains w.keyword
  | _ => false

/-- Is this the sign `s`? -/
def isSign (s : String) (t : Token) : Bool := t == sign s

/-- A word that is written without quotes. -/
def ofText (text : List Char) : Token :=
  word { text := String.ofList text, keyword := keywordOf text }

end Token

end ScriptGate.Sql
