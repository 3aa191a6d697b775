/-!
# The exact value of a float

A finite float is `mantissa * 2 ^ exponent` with a sign.  `Binary` holds these
three, read off the bit pattern, so that rounding and printing are exact
arithmetic on natural numbers and never go through another float.  NaN and the
two infinities have no such value and are told apart by `Shape`.
-/

namespace Spreadsheet.Decimal

/-- The exact value of a finite float. -/
structure Binary where
  /-- Whether the sign bit is set. -/
  negative : Bool
  /-- The significand, below `2 ^ 53`. -/
  mantissa : Nat
  /-- The power of two it is scaled by. -/
  exponent : Int
deriving DecidableEq, Repr

/-- What kind of float a bit pattern is. -/
inductive Shape where
  /-- No number. -/
  | nan
  /-- One of the two infinities. -/
  | infinite (negative : Bool)
  /-- A number. -/
  | finite (value : Binary)
deriving DecidableEq, Repr

/-- The sign of a bit pattern, two to the power of 63. -/
def signBit : Nat := 9223372036854775808

/-- The bit of a mantissa that a bit pattern leaves out, two to the power of 52. -/
def hiddenBit : Nat := 4503599627370496

/-- The shape a bit pattern stands for. -/
def Shape.ofBits (bits : Nat) : Shape :=
  let negative := signBit ≤ bits
  let power : Nat := bits / hiddenBit % 2048
  let fraction : Nat := bits % hiddenBit
  if power = 2047 then
    if fraction = 0 then .infinite negative else .nan
  else if power = 0 then .finite ⟨negative, fraction, -1074⟩
  else .finite ⟨negative, hiddenBit + fraction, (power : Int) - 1075⟩

/-- The shape of a float. -/
def shape (x : Float) : Shape := Shape.ofBits x.toBits.toNat

/-- The float with the given sign and magnitude. -/
def signed (negative : Bool) (magnitude : Float) : Float :=
  if negative then -magnitude else magnitude

/-- The float with the given exact value.  The mantissa is below `2 ^ 53` and the exponent at least
`-1074`, so that the value is a float unless it is too large. -/
def Binary.toFloat (b : Binary) : Float :=
  if b.mantissa = 0 then signed b.negative 0.0
  else
    let shift := min (52 - b.mantissa.log2) (b.exponent + 1074).toNat
    let mantissa := b.mantissa * Nat.pow 2 shift
    let power := b.exponent - shift + 1075
    let bits :=
      if mantissa < hiddenBit then mantissa else power.toNat * hiddenBit + (mantissa - hiddenBit)
    signed b.negative (Float.ofBits bits.toUInt64)

/-- The value without its sign as a fraction of natural numbers. -/
def Binary.fraction (b : Binary) : Nat × Nat :=
  (b.mantissa * Nat.pow 2 b.exponent.toNat, Nat.pow 2 (-b.exponent).toNat)

/-! ## Tests -/

example : shape 1.5 = .finite ⟨false, 6755399441055744, -52⟩ := by decide +kernel
example : shape (-0.0) = .finite ⟨true, 0, -1074⟩ := by decide +kernel
example : (Binary.mk true 3 (-1)).toFloat = -1.5 := by decide +kernel
example : (Binary.mk false 1 (-1074)).toFloat = Float.ofBits 1 := by decide +kernel
example : (Binary.mk false 3 (-1)).fraction = (3, 2) := by decide

end Spreadsheet.Decimal
