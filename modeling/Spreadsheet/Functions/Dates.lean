import Spreadsheet.Calendar.Period
import Spreadsheet.Evaluation.Argument
import Spreadsheet.Evaluation.Context
import Spreadsheet.Text.Casing

/-!
# Functions on moments

An argument that has to be a moment may be one, a serial number or a text that
reads as either.
-/

namespace Spreadsheet.Functions

open Spreadsheet.Calendar (Moment Date)
open Spreadsheet.Decimal (toSigned64)
open Spreadsheet.Evaluation (Argument Context Program argument numberAt textAt)
open Spreadsheet.Formula (Error)

/-- The moment at a position. -/
def momentAt (arguments : List Argument) (i : Nat) : Program Moment := do
  (← argument arguments i).moment

/-- The whole number at a position. -/
def wholeAt (arguments : List Argument) (i : Nat) : Program Int := do
  return toSigned64 (← numberAt arguments i)

/-- The present moment, displayed with date and time. -/
def now (c : Context) : Value := .formatted (.date c.now) "g"

/-- The present date, displayed as a date. -/
def today (c : Context) : Value := .formatted (.date (.midnight c.now.date)) "d"

/-- A number that belongs to a moment. -/
def part (f : Moment → Int) (arguments : List Argument) : Program Value := do
  return .number (Float.ofInt (f (← momentAt arguments 0)))

/-- The number of a weekday.  The week starts on Sunday with 1, on Monday with 1, or on Monday with
0. -/
def weekdayNumber (d : Date) (type : Int) : Except Error Nat :=
  if type = 1 then .ok (d.daysFromSunday + 1)
  else if type = 2 then .ok (d.daysFromMonday + 1)
  else if type = 3 then .ok d.daysFromMonday
  else .error (.argument (.weekdayType type))

/-- The number of a weekday. -/
def weekday (arguments : List Argument) : Program Value := do
  let m ← momentAt arguments 0
  let type ← match arguments[1]? with
    | some a => do pure (toSigned64 (← a.number))
    | none => pure 1
  return .number (Float.ofNat (← .ofExcept (weekdayNumber m.date type)))

/-- A time of day, displayed as a time. -/
def timeOf (arguments : List Argument) : Program Value := do
  let hour ← wholeAt arguments 0
  let minute ← wholeAt arguments 1
  let second ← wholeAt arguments 2
  match Calendar.wrappedSeconds? hour minute second with
  | some n => return .formatted (.date ⟨⟨0⟩, n, 0⟩) "t"
  | none => .fail (.argument (.badTime hour minute second))

/-- A date from its year, month and day. -/
def dateOf (arguments : List Argument) : Program Value := do
  let year := Calendar.fullYear (← wholeAt arguments 0)
  let month ← wholeAt arguments 1
  let day ← wholeAt arguments 2
  match Calendar.rolledDate? year month day with
  | some d => return .date (.midnight d)
  | none => .fail (.argument (.badDate year month day))

/-- The length of a period in a unit. -/
def dateDif (arguments : List Argument) : Program Value := do
  let start := (← momentAt arguments 0).date
  let finish := (← momentAt arguments 1).date
  let unit := Text.upper (Text.trim (← textAt arguments 2))
  if finish.number < start.number then .fail (.argument .reversedPeriod)
  else
    match Calendar.periodLength? start finish unit with
    | some n => return .number (Float.ofInt n)
    | none => .fail (.argument (.periodUnit unit))

end Spreadsheet.Functions
