/-
  ScriptGate.Backup.Stamp — when a backup was made.

  A stamp names the second of a moment, so that it can be part of a file name.
-/

namespace ScriptGate.Backup

/-- A second of the calendar. -/
structure Second where
  /-- the year, zero and below before our era -/
  year : Int
  /-- the month, from one -/
  month : Nat
  /-- the day, from one -/
  day : Nat
  /-- the hour, from zero -/
  hour : Nat
  /-- the minute, from zero -/
  minute : Nat
  /-- the second, from zero -/
  second : Nat
deriving DecidableEq, Repr

namespace Second

/-- A year with a day more? -/
def isLeap (year : Int) : Bool := year % 4 == 0 && (year % 100 != 0 || year % 400 == 0)

/-- How many days a month has. -/
def daysOf (year : Int) (month : Nat) : Nat :=
  if month = 2 then if isLeap year then 29 else 28
  else if month = 4 ∨ month = 6 ∨ month = 9 ∨ month = 11 then 30
  else 31

/-- The years that are reckoned with. -/
def isYear (year : Int) : Bool := -262143 ≤ year && year ≤ 262142

/-- Is there such a second? -/
def isValid (s : Second) : Bool :=
  isYear s.year && 1 ≤ s.month && s.month ≤ 12 && 1 ≤ s.day && s.day ≤ daysOf s.year s.month &&
    s.hour < 24 && s.minute < 60 && s.second < 60

/-- A number with zeros in front. -/
def padded (width n : Nat) : String :=
  let ds := toString n
  "".pushn '0' (width - ds.length) ++ ds

/-- A year of four digits or more, with a sign unless it has four and is of our era. -/
def yearText (year : Int) : String :=
  if 0 ≤ year ∧ year ≤ 9999 then padded 4 year.toNat
  else (if year < 0 then "-" else "+") ++ padded 4 year.natAbs

/-- The stamp of a second. -/
def stamp (s : Second) : String :=
  "-".intercalate [yearText s.year, padded 2 s.month, padded 2 s.day] ++ "_" ++
    "-".intercalate [padded 2 s.hour, padded 2 s.minute, padded 2 s.second]

end Second

end ScriptGate.Backup
