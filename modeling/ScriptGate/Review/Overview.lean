/-
  ScriptGate.Review.Overview — a script as a whole and statement by statement.
-/
import ScriptGate.Review.Analysis

namespace ScriptGate.Review

open ScriptGate.Statement

/-- The review of a script. -/
structure Overview where
  /-- what there is to say on the script as a whole -/
  findings : List Finding
  /-- the reviews of its statements, if they are asked for -/
  statements : List Analysis
deriving DecidableEq, Repr

/-- Reviews a script. -/
def overview (parser : Parser) (script : List Char) (perStatement : Bool) : Overview where
  findings := (analyze parser script).findings
  statements := if perStatement then analyzeStatements parser script else []

/-- The highest severity of the findings on the whole. -/
def Overview.highest? (o : Overview) : Option Severity := Review.highest? o.findings

end ScriptGate.Review
