import Spreadsheet.Calendar.Date
import Spreadsheet.Decimal.Integral

/-!
# Moments and serial numbers

A moment is a date with a time of day.  The time is a number of seconds since
midnight and of nanoseconds since that second.  A leap second is the second
before it with a billion nanoseconds or more.

The *serial number* of a moment is its day number with the time of day as the
fraction of a day.  It is computed from whole milliseconds.  Back from a serial
number, milliseconds are rounded to the nearest, and only numbers up to the end
of the year 9999, in both directions, stand for a moment.
-/

namespace Spreadsheet.Calendar

/-- A date with a time of day. -/
structure Moment where
  /-- The date. -/
  date : Date
  /-- Seconds since midnight, below 86400. -/
  seconds : Nat
  /-- Nanoseconds since that second, two billion at most. -/
  nanos : Nat
deriving DecidableEq, Repr

namespace Moment

/-- Midnight at the beginning of a date. -/
def midnight (d : Date) : Moment := ⟨d, 0, 0⟩

/-- Whether a moment is midnight. -/
def isMidnight (m : Moment) : Bool := m.seconds = 0 && m.nanos = 0

/-- The hour, from 0 to 23. -/
def hour (m : Moment) : Nat := m.seconds / 3600

/-- The minute, from 0 to 59. -/
def minute (m : Moment) : Nat := m.seconds / 60 % 60

/-- The second, from 0 to 59.  A leap second counts as the second before it. -/
def second (m : Moment) : Nat := m.seconds % 60

/-- The second as it is written.  A leap second is 60. -/
def writtenSecond (m : Moment) : Nat := m.second + m.nanos / 1000000000

/-- The moment the given number of milliseconds after midnight of the day zero. -/
def ofMilliseconds (ms : Int) : Moment :=
  let inDay := (ms % 86400000).toNat
  ⟨⟨ms / 86400000⟩, inDay / 1000, inDay % 1000 * 1000000⟩

/-- Milliseconds since midnight of the day zero.  The rest is dropped toward zero. -/
def milliseconds (m : Moment) : Int :=
  Int.tdiv ((m.date.number * 86400 + m.seconds) * 1000000000 + m.nanos) 1000000

end Moment

/-- The milliseconds of a day. -/
def millisecondsPerDay : Float := 86400000.0

/-- The greatest serial number that stands for a moment, 31 December 9999. -/
def maxSerial : Float := 2958465.0

/-- The serial number of a moment. -/
def Moment.serial (m : Moment) : Float := Float.ofInt m.milliseconds / millisecondsPerDay

/-- The moment a serial number stands for. -/
def Moment.ofSerial? (x : Float) : Option Moment :=
  if !x.isFinite || maxSerial < x.abs then none
  else some (.ofMilliseconds (Decimal.toSigned64 (Decimal.nearest (x * millisecondsPerDay))))

/-! ## Tests -/

example : Moment.ofSerial? 0.5 = some ⟨⟨0⟩, 43200, 0⟩ := by decide +kernel
example : Moment.ofSerial? (-0.25) = some ⟨⟨-1⟩, 64800, 0⟩ := by decide +kernel
example : Moment.ofSerial? 2958466.0 = none := by decide +kernel
example : (Moment.mk ⟨45351⟩ 43200 0).serial = 45351.5 := by decide +kernel

end Spreadsheet.Calendar
