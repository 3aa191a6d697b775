/-!
# Whole powers of a float

A power with a natural exponent is computed by repeated squaring, one bit of
the exponent at a time from the lowest.  Every multiplication rounds, so the
order matters: `10 ^ n` is not always the float nearest to that power of ten.
-/

namespace Spreadsheet.Decimal

/-- Repeated squaring.  `acc` is the power for the bits already done and `base` the square that the
next bit selects.  The first argument bounds the number of bits. -/
def powerFrom : Nat → Float → Nat → Float → Float
  | 0, _, _, acc => acc
  | bits + 1, base, n, acc =>
    if n = 0 then acc
    else
      let acc := if n % 2 = 1 then acc * base else acc
      if n / 2 = 0 then acc else powerFrom bits (base * base) (n / 2) acc

/-- A float to a natural power. -/
def power (base : Float) (n : Nat) : Float := powerFrom (n.log2 + 1) base n 1.0

/-! ## Tests -/

example : power 10.0 0 = 1.0 := by decide +kernel
example : power 10.0 3 = 1000.0 := by decide +kernel
example : power (-2.0) 5 = -32.0 := by decide +kernel
example : power 10.0 400 = 1.0 / 0.0 := by decide +kernel

end Spreadsheet.Decimal
