import Spreadsheet.Decimal.Integral
import Spreadsheet.Decimal.Power

/-!
# Rounding to decimal places

A number is rounded to places by moving its point, rounding to a whole number
and moving the point back.  Each step rounds the float, and the last bit shows
it.  When the point cannot be moved without leaving the floats, the number has
no digits to drop.
-/

namespace Spreadsheet.Decimal

/-- Which whole number a number is rounded to. -/
inductive Rounding where
  /-- The nearest, and of two the one away from zero. -/
  | nearest
  /-- The next away from zero. -/
  | up
  /-- The next toward zero. -/
  | down
deriving DecidableEq, Repr

/-- Rounds to a whole number. -/
def Rounding.apply (x : Float) : Rounding → Float
  | .nearest => Decimal.nearest x
  | .up => if 0.0 ≤ x then ceiling x else floor x
  | .down => truncate x

/-- The greatest number of places the point is moved. -/
def maxShift : Int := 308

/-- A number of places, within the bounds of a shift. -/
def shiftOf (places : Float) : Int := toWhole (-maxShift) maxShift places

/-- Moves the point to the right. -/
def shift (x : Float) (places : Int) : Float :=
  if 0 ≤ places then x * power 10.0 places.toNat else x / power 10.0 (-places).toNat

/-- Rounds to places, if the point can be moved so far. -/
def roundTo? (mode : Rounding) (x : Float) (places : Int) : Option Float :=
  let scaled := shift x places
  if scaled.isFinite then some (shift (mode.apply scaled) (-places)) else none

/-! ## Tests -/

example : roundTo? .nearest 2.345 2 = some 2.35 := by decide +kernel
example : roundTo? .up (-1.2) 0 = some (-2.0) := by decide +kernel
example : roundTo? .down 1299.0 (-2) = some 1200.0 := by decide +kernel
example : roundTo? .nearest 1e300 300 = none := by decide +kernel

end Spreadsheet.Decimal
