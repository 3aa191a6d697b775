/-!
# Calendar dates

A date is a day number, counted from 30 December 1899, so that the distance of
two dates is a subtraction.  Its year, month and day follow from the Gregorian
calendar, which is extended to the past and has a year zero.

The computations count years from March.  The leap day is then the last day of
the year, the months before it have lengths that repeat every five, and a cycle
of 400 years has 146097 days.

Dates lie in the years from -262143 to 262142.  An operation that would leave
them has no result.
-/

namespace Spreadsheet.Calendar

/-- A date, as a day number. -/
structure Date where
  /-- Days since 30 December 1899. -/
  number : Int
deriving DecidableEq, Repr

/-- A year, a month of it from 1 to 12, and a day of that month from 1. -/
structure Civil where
  /-- The year. -/
  year : Int
  /-- The month. -/
  month : Nat
  /-- The day. -/
  day : Nat
deriving DecidableEq, Repr

/-- Whether a year has a leap day. -/
def isLeapYear (year : Int) : Bool := year % 4 = 0 && (year % 100 ≠ 0 || year % 400 = 0)

/-- The number of days of a month. -/
def monthLength (year : Int) (month : Nat) : Nat :=
  if month = 2 then if isLeapYear year then 29 else 28
  else if month = 4 || month = 6 || month = 9 || month = 11 then 30
  else 31

/-- Days between 1 March of the year zero and 30 December 1899. -/
def epochOffset : Int := 693899

/-- The day number of a date written as year, month and day. -/
def Civil.dayNumber (c : Civil) : Int :=
  let year := if c.month ≤ 2 then c.year - 1 else c.year
  let month : Int := (c.month + 9) % 12
  let day := (153 * month + 2) / 5 + c.day - 1
  365 * year + year / 4 - year / 100 + year / 400 + day - epochOffset

/-- The date with a day number, written as year, month and day. -/
def Date.civil (d : Date) : Civil :=
  let days := d.number + epochOffset
  let cycle := days / 146097
  let inCycle := days % 146097
  let yearOfCycle := (inCycle - inCycle / 1460 + inCycle / 36524 - inCycle / 146096) / 365
  let inYear := inCycle - (365 * yearOfCycle + yearOfCycle / 4 - yearOfCycle / 100)
  let month := (5 * inYear + 2) / 153
  let day := inYear - (153 * month + 2) / 5 + 1
  let year := yearOfCycle + 400 * cycle
  if month < 10 then ⟨year, (month + 3).toNat, day.toNat⟩
  else ⟨year + 1, (month - 9).toNat, day.toNat⟩

/-- The first and the last year of the calendar. -/
def yearBounds : Int × Int := (-262143, 262142)

/-- Whether a date lies in the years of the calendar. -/
def Date.inBounds (d : Date) : Bool :=
  yearBounds.1 ≤ d.civil.year && d.civil.year ≤ yearBounds.2

/-- The date with the given year, month and day, if there is one. -/
def Date.ofCivil? (year : Int) (month day : Nat) : Option Date :=
  if yearBounds.1 ≤ year && year ≤ yearBounds.2 && 1 ≤ month && month ≤ 12 && 1 ≤ day
      && day ≤ monthLength year month then
    some ⟨(Civil.mk year month day).dayNumber⟩
  else none

/-- The date some days later. -/
def Date.addDays? (d : Date) (days : Int) : Option Date :=
  let later : Date := ⟨d.number + days⟩
  if later.inBounds then some later else none

/-- The days that passed since Monday, from 0 to 6. -/
def Date.daysFromMonday (d : Date) : Nat := ((d.number + 5) % 7).toNat

/-- The days that passed since Sunday, from 0 to 6. -/
def Date.daysFromSunday (d : Date) : Nat := ((d.number + 6) % 7).toNat

/-! ## Tests -/

example : (Date.ofCivil? 1899 12 30).map (·.number) = some 0 := by decide
example : (Date.ofCivil? 1970 1 1).map (·.number) = some 25569 := by decide
example : (Date.ofCivil? 2023 2 29) = none := by decide
example : (Date.mk 45351).civil = ⟨2024, 2, 29⟩ := by decide
example : (Date.mk (-693900)).civil = ⟨0, 2, 29⟩ := by decide
example : (Date.mk 45352).daysFromMonday = 4 := by decide

end Spreadsheet.Calendar
