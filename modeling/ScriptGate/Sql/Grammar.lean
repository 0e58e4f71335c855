/-
  ScriptGate.Sql.Grammar — the parts of the grammar that refer to one another.

  Statements hold queries, queries hold terms, terms hold queries again.  The rules for each part
  are written in modules of their own over a `Grammar`, the record of what the parts mean one
  step further down; the reader of statements ties the knot.
-/
import ScriptGate.Sql.Rule
import ScriptGate.Sql.Outline

namespace ScriptGate.Sql

/-- The recursive parts of the grammar. -/
structure Grammar where
  /-- a statement -/
  statement : Rule Outline
  /-- statements up to the end or the keyword END -/
  statements : Rule (List Outline)
  /-- a query with its WITH clause and its bounds -/
  query : Rule Query
  /-- the body of a query, with the set operators that bind more tightly than given -/
  body : Nat → Rule Body
  /-- a term, with the operators that bind more tightly than given -/
  term : Nat → Rule Term
  /-- a term without operators behind it -/
  operand : Rule Term
  /-- a data type, and whether it took the second of two closing angle brackets -/
  dataType : Rule (DataType × Bool)
  /-- a table source without joins -/
  source : Rule Source
  /-- the definition of a column -/
  column : Rule Unit
  /-- a column of a table read from JSON -/
  jsonColumn : Rule Unit
  /-- a pattern over rows -/
  rowPattern : Rule Unit

namespace Grammar

open Rule

/-- The grammar that refuses everything. -/
def refusing : Grammar where
  statement := refuse
  statements := refuse
  query := refuse
  body _ := refuse
  term _ := refuse
  operand := refuse
  dataType := refuse
  source := refuse
  column := refuse
  jsonColumn := refuse
  rowPattern := refuse

/-- A term with whatever operators follow. -/
def anyTerm (g : Grammar) : Rule Term := g.term 0

/-- Terms with commas between. -/
def terms (g : Grammar) : Rule Unit := ignored (commaSeparated g.anyTerm)

/-- Terms in parentheses. -/
def parenthesizedTerms (g : Grammar) : Rule Unit := parenthesized g.terms

/-- A term in parentheses. -/
def parenthesizedTerm (g : Grammar) : Rule Unit := parenthesized (ignored g.anyTerm)

/-- A query in parentheses. -/
def parenthesizedQuery (g : Grammar) : Rule Unit := parenthesized (ignored g.query)

/-- A data type; the brackets of its parts must be balanced. -/
def wholeType (g : Grammar) : Rule DataType := do
  let (t, trailing) ← g.dataType
  require !trailing
  return t

end Grammar

end ScriptGate.Sql
