/-
  ScriptGate.Sql.Interval — parts of a date and interval literals.
-/
import ScriptGate.Sql.Name

namespace ScriptGate.Sql

open Rule

/-- The units an interval may be measured in. -/
def intervalUnits : List String := [
  "YEAR", "MONTH", "WEEK", "DAY", "HOUR", "MINUTE", "SECOND", "CENTURY", "DECADE", "DOW", "DOY",
  "EPOCH", "ISODOW", "ISOYEAR", "JULIAN", "MICROSECOND", "MICROSECONDS", "MILLENIUM",
  "MILLENNIUM", "MILLISECOND", "MILLISECONDS", "NANOSECOND", "NANOSECONDS", "QUARTER",
  "TIMEZONE", "TIMEZONE_HOUR", "TIMEZONE_MINUTE"]

/-- A part of a date: any word or a plain string; a week may say which day it begins with.
    Answers with the keyword. -/
def datePart : Rule String := do
  match ← next with
  | .word w =>
    if w.keyword == "WEEK" then
      if ← sign? "(" then
        let _ ← name
        sign ")"
    return w.keyword
  | .literal .plain _ => return ""
  | _ => refuse

/-- An interval behind the keyword INTERVAL: a value and perhaps its unit.  The precision of
    seconds is written differently from that of the other units. -/
def interval (g : Grammar) : Rule Unit := do
  let _ ← g.operand
  let unit ← if ← sees (Token.isKeywordOf intervalUnits) then datePart else pure ""
  if unit == "SECOND" then precisionScale?
  else
    precision?
    if ← keyword? "TO" then
      if (← datePart) == "SECOND" then precision?

end ScriptGate.Sql
