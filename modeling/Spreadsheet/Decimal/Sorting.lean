import Spreadsheet.Decimal.Binary

/-!
# Sorting floats

All floats are in one order that goes by their bits.  Among numbers it is the usual
one, except that the negative zero comes before the positive one.  NaN is at its two
ends, by its sign.
-/

namespace Spreadsheet.Decimal

/-- The place of a float in the order of all floats. -/
def place (x : Float) : Int :=
  let bits := x.toBits.toNat
  if bits < signBit then bits else (signBit : Int) - 1 - bits

/-- Floats from the first to the last one. -/
def ascending (xs : List Float) : List Float := xs.mergeSort fun x y => place x ≤ place y

/-- Floats from the last to the first one. -/
def descending (xs : List Float) : List Float := xs.mergeSort fun x y => place y ≤ place x

/-! ## Tests -/

example : place 0.0 = 0 := by decide +kernel
example : place (-0.0) = -1 := by decide +kernel

end Spreadsheet.Decimal
