import Spreadsheet.Calendar.Moment

/-!
# Periods and rolled dates

A period is the time from one date to a later one.  A month of it has passed
once its day is reached.  Without the years, or without the years and months,
the period starts anew at the last date before its end that has the same day,
or the last day of the month when that is too short.

A date with a month or a day out of bounds rolls into the neighbouring years and
months.  All numbers on the way must fit into 64 bits.
-/

namespace Spreadsheet.Calendar

/-- The date with the given year and month, and the given day or the last one before it. -/
def clampedDate? (year : Int) (month day : Nat) : Option Date :=
  Date.ofCivil? year month (min day (monthLength year month))

/-- The whole months of a period. -/
def wholeMonths (start finish : Date) : Int :=
  let a := start.civil
  let b := finish.civil
  let months := (b.year - a.year) * 12 + b.month - a.month
  if b.day < a.day then months - 1 else months

/-- The days of a period without its years. -/
def daysInYear (start finish : Date) : Int :=
  let a := start.civil
  let b := finish.civil
  let sameYear := (clampedDate? b.year a.month a.day).filter fun d => d.number ≤ finish.number
  let anchor := (sameYear.or (clampedDate? (b.year - 1) a.month a.day)).getD start
  finish.number - anchor.number

/-- The days of a period without its years and months. -/
def daysInMonth (start finish : Date) : Int :=
  let a := start.civil
  let b := finish.civil
  if a.day ≤ b.day then (b.day : Int) - a.day
  else
    let anchor :=
      if b.month = 1 then clampedDate? (b.year - 1) 12 a.day
      else clampedDate? b.year (b.month - 1) a.day
    finish.number - (anchor.getD start).number

/-- The length of a period in a unit: whole years, months or days, months without the years, and
days without the years or without the months. -/
def periodLength? (start finish : Date) (unit : String) : Option Int :=
  if unit == "Y" then some (wholeMonths start finish / 12)
  else if unit == "M" then some (wholeMonths start finish)
  else if unit == "D" then some (finish.number - start.number)
  else if unit == "YM" then some (wholeMonths start finish % 12)
  else if unit == "YD" then some (daysInYear start finish)
  else if unit == "MD" then some (daysInMonth start finish)
  else none

/-- A whole number that fits into 64 bits with a sign. -/
def fits64? (n : Int) : Option Int :=
  if Decimal.wholeBounds.1 ≤ n && n ≤ Decimal.wholeBounds.2 then some n else none

/-- The year meant by a number.  The years before 1900 are counted from it. -/
def fullYear (year : Int) : Int := if 0 ≤ year && year < 1900 then year + 1900 else year

/-- The date with a year, a month that may roll into other years, and a day that may roll into
other months. -/
def rolledDate? (year month day : Int) : Option Date := do
  let years ← fits64? (year * 12)
  let sum ← fits64? (years + month)
  let months ← fits64? (sum - 1)
  let first ← Date.ofCivil? (months / 12) ((months % 12).toNat + 1) 1
  first.addDays? (← fits64? (day - 1))

/-- The second of the day for a time that may be longer than a day or negative. -/
def wrappedSeconds? (hour minute second : Int) : Option Nat := do
  let hours ← fits64? (hour * 3600)
  let minutes ← fits64? (minute * 60)
  let sum ← fits64? (hours + minutes)
  let total ← fits64? (sum + second)
  return (total % 86400).toNat

/-! ## Tests -/

example : (rolledDate? 2023 14 0).map Date.civil = some ⟨2024, 1, 31⟩ := by decide
example : (rolledDate? 2024 2 30).map Date.civil = some ⟨2024, 3, 1⟩ := by decide
example : wrappedSeconds? 25 (-1) 0 = some 3540 := by decide
example : periodLength? ⟨45322⟩ ⟨45351⟩ "MD" = some 29 := by decide +kernel
example : periodLength? ⟨45351⟩ ⟨45716⟩ "Y" = some 0 := by decide +kernel

end Spreadsheet.Calendar
