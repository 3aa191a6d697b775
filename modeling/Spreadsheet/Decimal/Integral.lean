import Spreadsheet.Decimal.Binary

/-!
# Whole numbers near a float

Four ways to round a float to a whole number, the whole number a float stands
for once its fraction is dropped, and the remainder of a division.  A float
whose exponent is not negative is whole already and is returned as it is; of
any other the mantissa is divided by a power of two and the rest decides.
-/

namespace Spreadsheet.Decimal

/-- Rounds a float to a whole number.  `up` says, from the sign, the whole part, the part that is
dropped and the unit it is measured in, whether the magnitude goes up. -/
def roundWith (up : Bool → Nat → Nat → Nat → Bool) (x : Float) : Float :=
  match shape x with
  | .finite b =>
    if 0 ≤ b.exponent then x
    else
      let unit := Nat.pow 2 (-b.exponent).toNat
      let whole := b.mantissa / unit
      let rest := b.mantissa % unit
      let magnitude := if up b.negative whole rest unit then whole + 1 else whole
      signed b.negative (Float.ofNat magnitude)
  | _ => x

/-- Toward zero. -/
def truncate (x : Float) : Float := roundWith (fun _ _ _ _ => false) x

/-- Down. -/
def floor (x : Float) : Float := roundWith (fun negative _ rest _ => negative && rest ≠ 0) x

/-- Up. -/
def ceiling (x : Float) : Float := roundWith (fun negative _ rest _ => !negative && rest ≠ 0) x

/-- To the nearest, a half away from zero. -/
def nearest (x : Float) : Float := roundWith (fun _ _ rest unit => unit ≤ 2 * rest) x

/-- The whole number between `low` and `high` that is nearest to a float without its fraction.  NaN
counts as zero. -/
def toWhole (low high : Int) (x : Float) : Int :=
  match shape x with
  | .nan => 0
  | .infinite negative => if negative then low else high
  | .finite b =>
    let (num, den) := b.fraction
    let magnitude : Int := (num / den : Nat)
    max low (min high (if b.negative then -magnitude else magnitude))

/-- The least and the greatest whole number of 64 bits with a sign. -/
def wholeBounds : Int × Int := (-9223372036854775808, 9223372036854775807)

/-- The whole number of 64 bits nearest to a float without its fraction. -/
def toSigned64 (x : Float) : Int := toWhole wholeBounds.1 wholeBounds.2 x

/-- The natural number of 64 bits nearest to a float without its fraction. -/
def toUnsigned64 (x : Float) : Nat := (toWhole 0 18446744073709551615 x).toNat

/-- What is left of `x` after it was divided by `y` to a whole quotient toward zero.  It has the
sign of `x` and is exact. -/
def remainder (x y : Float) : Float :=
  match shape x, shape y with
  | .finite a, .finite b =>
    if b.mantissa = 0 then 0.0 / 0.0
    else
      let exponent := min a.exponent b.exponent
      let dividend := a.mantissa * Nat.pow 2 (a.exponent - exponent).toNat
      let divisor := b.mantissa * Nat.pow 2 (b.exponent - exponent).toNat
      Binary.toFloat ⟨a.negative, dividend % divisor, exponent⟩
  | .finite _, .infinite _ => x
  | _, _ => 0.0 / 0.0

/-! ## Tests -/

example : truncate (-2.5) = -2.0 := by decide +kernel
example : floor (-2.5) = -3.0 := by decide +kernel
example : ceiling (-0.5) = -0.0 := by decide +kernel
example : nearest 2.5 = 3.0 := by decide +kernel
example : nearest 0.49999999999999994 = 0.0 := by decide +kernel
example : toSigned64 (-7.9) = -7 := by decide +kernel
example : toSigned64 1e300 = wholeBounds.2 := by decide +kernel
example : remainder 5.5 2.0 = 1.5 := by decide +kernel
example : remainder (-1e300) 7.0 = -1.0 := by decide +kernel

end Spreadsheet.Decimal
