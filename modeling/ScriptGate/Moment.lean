/-
  ScriptGate.Moment — a moment as the machine's clock shows it.
-/

namespace ScriptGate

/-- A moment.  What is written of it is taken over as it comes; only the seconds are reckoned
    with. -/
structure Moment where
  /-- seconds since the clock was started -/
  seconds : Nat
  /-- date and time -/
  stamp : String
  /-- time of the day -/
  timeOfDay : String
deriving DecidableEq, Repr, Inhabited

end ScriptGate
