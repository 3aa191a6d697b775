import Spreadsheet.Calendar.Moment
import Spreadsheet.Decimal.Shortest

/-!
# Moments as text

The short layouts write the month and the day without leading zeros and the
hour on a clock of twelve hours.  A year has four digits, or a sign and at
least four digits when it is negative or has more.
-/

namespace Spreadsheet.Calendar

open Spreadsheet.Decimal (digitsOf)

/-- A number with zeros in front up to a width. -/
def zeroPadded (width n : Nat) : List Char :=
  let digits := digitsOf n
  List.replicate (width - digits.length) '0' ++ digits

/-- A year. -/
def yearText (year : Int) : List Char :=
  if year < 0 then '-' :: zeroPadded 4 year.natAbs
  else if year ≤ 9999 then zeroPadded 4 year.natAbs
  else '+' :: zeroPadded 4 year.natAbs

/-- The date in the layout `m/d/yyyy`. -/
def Moment.shortDate (m : Moment) : List Char :=
  let c := m.date.civil
  digitsOf c.month ++ '/' :: digitsOf c.day ++ '/' :: yearText c.year

/-- The hour on a clock of twelve hours. -/
def Moment.clockHour (m : Moment) : Nat := if m.hour % 12 = 0 then 12 else m.hour % 12

/-- The half of the day, with a space in front. -/
def Moment.halfDay (m : Moment) : List Char :=
  if m.hour < 12 then [' ', 'A', 'M'] else [' ', 'P', 'M']

/-- The time in the layout `h:mm AM`. -/
def Moment.shortTime (m : Moment) : List Char :=
  digitsOf m.clockHour ++ ':' :: zeroPadded 2 m.minute ++ m.halfDay

/-- The time in the layout `h:mm:ss AM`. -/
def Moment.longTime (m : Moment) : List Char :=
  digitsOf m.clockHour ++ ':' :: zeroPadded 2 m.minute ++ ':' :: zeroPadded 2 m.writtenSecond
    ++ m.halfDay

/-- The date and the time in the short layouts. -/
def Moment.shortDateTime (m : Moment) : List Char := m.shortDate ++ ' ' :: m.shortTime

/-- The layout a moment has as a text: no time at midnight, and seconds only where there are some. -/
def Moment.text (m : Moment) : String :=
  String.ofList <|
    if m.isMidnight then m.shortDate
    else if m.second = 0 then m.shortDateTime
    else m.shortDate ++ ' ' :: m.longTime

/-- The layout `yyyy-mm-dd hh:mm:ss`, in which a grid shows a moment. -/
def Moment.gridText (m : Moment) : String :=
  let c := m.date.civil
  String.ofList <|
    yearText c.year ++ '-' :: zeroPadded 2 c.month ++ '-' :: zeroPadded 2 c.day ++ ' '
      :: zeroPadded 2 m.hour ++ ':' :: zeroPadded 2 m.minute ++ ':' :: zeroPadded 2 m.writtenSecond

/-! ## Tests -/

example : (Moment.mk ⟨45351⟩ 0 0).text = "2/29/2024" := by decide +kernel
example : (Moment.mk ⟨45351⟩ 780 0).text = "2/29/2024 12:13 AM" := by decide +kernel
example : (Moment.mk ⟨45351⟩ 46861 0).text = "2/29/2024 1:01:01 PM" := by decide +kernel
example : (Moment.mk ⟨45351⟩ 59 1000000000).gridText = "2024-02-29 00:00:60" := by decide +kernel

end Spreadsheet.Calendar
