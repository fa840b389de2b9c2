/-!
# `FieldRules.Calendar.Date` — days of the Gregorian calendar

The calendar is extended to all years, before and after its introduction; year 0 precedes year 1.
Days are numbered from 1 January 1970.

## Contents
- **`Date`**, with `Date.Valid` for the dates that exist.
- **`Date.toDay`** and **`Date.ofDay`**, the two directions of the numbering. Both count years from
  1 March, so that a leap day is the last day of its year, in cycles of four hundred years.
-/

namespace FieldRules.Calendar

/-- A date by year, month and day of the month, both counted from one. -/
structure Date where
  year : Int
  month : Nat
  day : Nat
  deriving DecidableEq, Repr

/-- Leap years: those divisible by four, of the full centuries only each fourth. -/
def isLeap (year : Int) : Bool :=
  year % 4 = 0 && (year % 100 ≠ 0 || year % 400 = 0)

/-- The number of days in a month. -/
def daysInMonth (year : Int) (month : Nat) : Nat :=
  if month = 2 then (if isLeap year then 29 else 28)
  else if month = 4 ∨ month = 6 ∨ month = 9 ∨ month = 11 then 30
  else 31

namespace Date

/-- The dates that exist. -/
def Valid (d : Date) : Prop :=
  1 ≤ d.month ∧ d.month ≤ 12 ∧ 1 ≤ d.day ∧ d.day ≤ daysInMonth d.year d.month

instance (d : Date) : Decidable d.Valid :=
  inferInstanceAs (Decidable (_ ∧ _ ∧ _ ∧ _))

/-- Days before the first day of a year of a cycle, for years that begin in March. -/
def daysBeforeYear (yearOfCycle : Nat) : Nat :=
  365 * yearOfCycle + yearOfCycle / 4 - yearOfCycle / 100

/-- Days before the first day of a month, for years that begin in March; March is month nought. -/
def daysBeforeMonth (month : Nat) : Nat :=
  (153 * month + 2) / 5

/-- The days of a cycle of four hundred years. -/
def cycleDays : Nat := 146097

/-- The number that 1 March of year nought has when 1 January 1970 is nought. -/
def origin : Int := -719468

/-- The number of the day. -/
def toDay (d : Date) : Int :=
  let year := if d.month ≤ 2 then d.year - 1 else d.year
  let month := if d.month ≤ 2 then d.month + 9 else d.month - 3
  let yearOfCycle := (year % 400).toNat
  origin + year / 400 * cycleDays +
    (daysBeforeYear yearOfCycle + daysBeforeMonth month + d.day - 1 : Int)

/-- The date of a day. -/
def ofDay (day : Int) : Date :=
  let cycle := (day - origin) / cycleDays
  let dayOfCycle := ((day - origin) % cycleDays).toNat
  let yearOfCycle :=
    (dayOfCycle - dayOfCycle / 1460 + dayOfCycle / 36524 - dayOfCycle / 146096) / 365
  let dayOfYear := dayOfCycle - daysBeforeYear yearOfCycle
  let month := (5 * dayOfYear + 2) / 153
  let year := cycle * 400 + yearOfCycle
  { year := if month < 10 then year else year + 1
    month := if month < 10 then month + 3 else month - 9
    day := dayOfYear - daysBeforeMonth month + 1 }

example : toDay ⟨1970, 1, 1⟩ = 0 := by decide
example : ofDay 0 = ⟨1970, 1, 1⟩ := by decide
example : ofDay (toDay ⟨2000, 2, 29⟩) = ⟨2000, 2, 29⟩ := by decide
example : ofDay (toDay ⟨-262143, 1, 1⟩) = ⟨-262143, 1, 1⟩ := by decide

end Date

end FieldRules.Calendar
