/-
  ScriptGate.Review.Analysis — the review of a statement and of a script.

  Main statement:
    - `analyze_blank` — a blank text has one remark and no classification.
-/
import ScriptGate.Review.Rules
import ScriptGate.Script.Scan
import ScriptGate.Statement.Reading

namespace ScriptGate.Review

open ScriptGate.Text ScriptGate.Statement

/-! ## §1. One statement -/

/-- The review of one statement. -/
structure Analysis where
  /-- its text without blanks at the ends -/
  statement : List Char
  /-- what it is; nothing for a blank text -/
  classification : Option Classification
  /-- the parser read it; if not, it was judged by its words -/
  parsed : Bool
  /-- what there is to say -/
  findings : List Finding
deriving DecidableEq, Repr

/-- Is any finding critical? -/
def Analysis.hasCritical (a : Analysis) : Bool := a.findings.any Finding.isCritical

/-- The remark on a blank text. -/
def blankRemark : Finding := .info .style "No SQL provided."

/-- The warning that the parser gave up. -/
def fallbackWarning : Finding :=
  .warning .style "Using basic analysis (SQL syntax may have limitations)."

/-- The summary behind findings. -/
def summary (findings : List Finding) : Finding :=
  .info .style <|
    if findings.isEmpty then "SQL appears safe and efficient."
    else s!"Analysis completed with {findings.length} observations."

/-- The shape of a statement, and whether it is the parser's. -/
def shapeOf (parser : Parser) (statement : List Char) : Shape × Bool :=
  match Reading.ofText parser statement with
  | .parsed shape => (shape, true)
  | _ => (.ofText (upper statement), false)

/-- The findings on a statement of this shape, without the summary. -/
def observations (shape : Shape) (parsed : Bool) (text : List Char) : List Finding :=
  (if parsed then [] else [fallbackWarning]) ++ shapeFindings shape text ++
    securityFindings text ++ performanceFindings text

/-- The review of a text taken for one statement. -/
def analyze (parser : Parser) (text : List Char) : Analysis :=
  let statement := trim text
  if statement.isEmpty then ⟨[], none, false, [blankRemark]⟩
  else
    let (shape, parsed) := shapeOf parser statement
    let found := observations shape parsed (upper statement)
    ⟨statement, some shape.classification, parsed, found ++ [summary found]⟩

/-! ## §2. Scripts -/

/-- The reviews of the statements of a script; a script without statements is reviewed as a
    whole. -/
def analyzeStatements (parser : Parser) (script : List Char) : List Analysis :=
  match Script.fragments script with
  | [] => [analyze parser script]
  | statements => statements.map (analyze parser)

/-! ## §3. Laws -/

/-- A blank text has one remark and no classification. -/
theorem analyze_blank (parser : Parser) {text : List Char} (h : text.all isBlank = true) :
    analyze parser text = ⟨[], none, false, [blankRemark]⟩ := by
  rw [analyze, (trim_nil_iff text).2 h]; rfl

end ScriptGate.Review
