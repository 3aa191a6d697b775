import Spreadsheet.Decimal.Rounding
import Spreadsheet.Evaluation.Argument
import Spreadsheet.Evaluation.Context

/-!
# Functions on numbers

The result of these functions is a finite number, and an argument for which
there is none is an error.  The functions that round carry a display format with
the places they rounded to.
-/

namespace Spreadsheet.Functions

open Spreadsheet.Decimal (Rounding floor ceiling truncate roundTo? shiftOf toSigned64)
open Spreadsheet.Evaluation (Argument Context Program numberAt optionalNumber)
open Spreadsheet.Formula (Error)

/-- A finite number as the result of a function. -/
def finite (function : String) (x : Float) : Except Error Value :=
  if x.isFinite then .ok (.number x) else .error (.argument (.undefined function))

/-- A function of one number. -/
def unary (function : String) (f : Float → Float) (arguments : List Argument) : Program Value := do
  .ofExcept (finite function (f (← numberAt arguments 0)))

/-- The angle of a point, given by its two coordinates. -/
def atan2 (arguments : List Argument) : Program Value := do
  let x ← numberAt arguments 0
  let y ← numberAt arguments 1
  if x == 0.0 && y == 0.0 then .fail .divisionByZero
  else .ofExcept (finite "ATAN2" (Float.atan2 y x))

/-- The logarithm to a base, which is 10 if none is given. -/
def logarithm (x base : Float) : Float :=
  if base == 10.0 then x.log10 else if base == 2.0 then x.log2 else x.log / base.log

/-- The logarithm to a base. -/
def log (arguments : List Argument) : Program Value := do
  let x ← numberAt arguments 0
  let base ← optionalNumber arguments 1 10.0
  .ofExcept (finite "LOG" (logarithm x base))

/-- The multiple of a number that another one is rounded to. -/
def multiple (function : String) (round : Float → Float) (arguments : List Argument) :
    Program Value := do
  let x ← numberAt arguments 0
  let unit ← optionalNumber arguments 1 1.0
  if unit == 0.0 then return .number 0.0
  else .ofExcept (finite function (round (x / unit) * unit))

/-- The remainder of a division, with the sign of the divisor. -/
def mod (arguments : List Argument) : Program Value := do
  let x ← numberAt arguments 0
  let y ← numberAt arguments 1
  if y == 0.0 then .fail .divisionByZero
  else .ofExcept (finite "MOD" (x - y * floor (x / y)))

/-- The ratio of a circle's circumference to its diameter. -/
def pi : Float := 3.141592653589793

/-- A power. -/
def power (arguments : List Argument) : Program Value := do
  let base ← numberAt arguments 0
  let exponent ← numberAt arguments 1
  .ofExcept (finite "POWER" (base.pow exponent))

/-- The sign of a number: one, minus one or zero. -/
def signOf (x : Float) : Float := if 0.0 < x then 1.0 else if x < 0.0 then -1.0 else 0.0

/-- The sign of a number. -/
def sign (arguments : List Argument) : Program Value := do
  return .number (signOf (← numberAt arguments 0))

/-- The whole number between two others, both included, that a random number selects. -/
def drawBetween (bottom top : Int) (draw : Float) : Int :=
  bottom + min (top - bottom) (toSigned64 (draw * Float.ofInt (top - bottom + 1)))

/-- A random whole number. -/
def randBetween (c : Context) (arguments : List Argument) : Program Value := do
  let bottom := toSigned64 (ceiling (← numberAt arguments 0))
  let top := toSigned64 (floor (← numberAt arguments 1))
  if top < bottom then .fail (.argument (.emptyBounds bottom top))
  else return .number (Float.ofInt (drawBetween bottom top c.draw))

/-- The number of places to round to. -/
def places (arguments : List Argument) : Program Int := do
  return shiftOf (truncate (← optionalNumber arguments 1 0.0))

/-- The display format for a number of places. -/
def placesFormat (n : Int) : String := "n" ++ toString (max n 0)

/-- A number rounded to places, with the format to display it. -/
def rounded (function : String) (mode : Rounding) (arguments : List Argument) : Program Value := do
  let x ← numberAt arguments 0
  let n ← places arguments
  let v ← .ofExcept (finite function ((roundTo? mode x n).getD x))
  return .formatted v (placesFormat n)

/-- A number without the places after some of them. -/
def trunc (arguments : List Argument) : Program Value := do
  let x ← numberAt arguments 0
  let n ← places arguments
  .ofExcept (finite "TRUNC" ((roundTo? .down x n).getD x))

end Spreadsheet.Functions
