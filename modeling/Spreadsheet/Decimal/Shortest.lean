import Spreadsheet.Decimal.Binary

/-!
# The shortest decimal of a float

The reals that round to a float form an interval.  It reaches half way to each
neighbour and includes its ends when the mantissa is even; below a power of two
the neighbour is nearer.  The shortest decimal is one of that interval with the
fewest digits, and among those the nearest to the float, the upper one when two
are equally near.

The search tries one digit, two digits and so on.  For `n` digits the decimals
are the multiples of a power of ten, and only the two neighbours of the float
among them need a test.  All comparisons multiply natural numbers.

The text is positional throughout.  It has no exponent however large the number
is, and a whole number has no point.
-/

namespace Spreadsheet.Decimal

/-- A decimal number, `digits * 10 ^ exponent`. -/
structure Scaled where
  /-- All digits as one number. -/
  digits : Nat
  /-- The power of ten of the last digit. -/
  exponent : Int
deriving DecidableEq, Repr

/-- Compares `d` with `n * 2 ^ j`. -/
def Scaled.compareBinary (d : Scaled) (n : Nat) (j : Int) : Ordering :=
  compare (d.digits * Nat.pow 10 d.exponent.toNat * Nat.pow 2 (-j).toNat)
    (n * Nat.pow 2 j.toNat * Nat.pow 10 (-d.exponent).toNat)

/-- Whether a decimal lies in the interval of the reals that round to a float. -/
def Binary.readsBack (b : Binary) (d : Scaled) : Bool :=
  let narrow := b.mantissa = hiddenBit && -1074 < b.exponent
  let low := d.compareBinary (if narrow then 4 * b.mantissa - 1 else 4 * b.mantissa - 2)
    (b.exponent - 2)
  let high := d.compareBinary (4 * b.mantissa + 2) (b.exponent - 2)
  let ends := b.mantissa % 2 = 0
  (low = .gt || (ends && low = .eq)) && (high = .lt || (ends && high = .eq))

/-- Whether the value reaches a power of ten. -/
def Binary.reaches (b : Binary) (k : Int) : Bool :=
  Scaled.compareBinary ⟨1, k⟩ b.mantissa b.exponent ≠ .gt

/-- The least `k` for which the value is below `10 ^ k`.  The binary logarithm tells it up to one. -/
def Binary.magnitude (b : Binary) : Int :=
  let estimate := ((b.mantissa.log2 : Int) + b.exponent) * 78913 / 262144
  if b.reaches (estimate + 1) then estimate + 2
  else if b.reaches estimate then estimate + 1
  else estimate

/-- The decimal with `n` digits that reads back, if there is one: the nearer of the two neighbours
of the value, and the upper one if they are equally near. -/
def Binary.withDigits? (b : Binary) (n : Nat) : Option Scaled :=
  let exponent := b.magnitude - n
  let (num, den) := b.fraction
  let num := num * Nat.pow 10 (-exponent).toNat
  let den := den * Nat.pow 10 exponent.toNat
  let low := num / den
  let lowFits := b.readsBack ⟨low, exponent⟩
  let highFits := b.readsBack ⟨low + 1, exponent⟩
  if lowFits && (!highFits || 2 * num < (2 * low + 1) * den) then some ⟨low, exponent⟩
  else if highFits then some ⟨low + 1, exponent⟩
  else none

/-- The value written out in full. -/
def Binary.exact (b : Binary) : Scaled :=
  if 0 ≤ b.exponent then ⟨b.mantissa * Nat.pow 2 b.exponent.toNat, 0⟩
  else ⟨b.mantissa * Nat.pow 5 (-b.exponent).toNat, b.exponent⟩

/-- The shortest decimal of a value that is not zero.  Seventeen digits always read back. -/
def Binary.shortest (b : Binary) : Scaled :=
  ((List.range 17).findSome? fun i => b.withDigits? (i + 1)).getD b.exact

/-- The digits of a natural number. -/
def digitsOf (n : Nat) : List Char := Nat.toDigits 10 n

/-- Digits with the point where the exponent puts it. -/
def positional (digits : List Char) (exponent : Int) : List Char :=
  if 0 ≤ exponent then digits ++ List.replicate exponent.toNat '0'
  else
    let places := (-exponent).toNat
    if places < digits.length then
      digits.take (digits.length - places) ++ '.' :: digits.drop (digits.length - places)
    else '0' :: '.' :: List.replicate (places - digits.length) '0' ++ digits

/-- A decimal in positional notation, without zeros at the end of its fraction. -/
def Scaled.toText (d : Scaled) : List Char :=
  let digits := digitsOf d.digits
  let kept := (digits.reverse.dropWhile (· = '0')).reverse
  positional kept (d.exponent + (digits.length - kept.length))

/-- A float as the shortest decimal that reads back. -/
def text (x : Float) : String :=
  match shape x with
  | .nan => "NaN"
  | .infinite negative => if negative then "-inf" else "inf"
  | .finite b =>
    let sign := if b.negative then ['-'] else []
    String.ofList (sign ++ if b.mantissa = 0 then ['0'] else b.shortest.toText)

/-! ## Tests -/

example : (Binary.mk false hiddenBit (-52)).shortest = ⟨1, 0⟩ := by decide +kernel
example : text 0.1 = "0.1" := by decide +kernel
example : text (-1234.5) = "-1234.5" := by decide +kernel
example : text 1e23 = "100000000000000000000000" := by decide +kernel
example : text (-0.0) = "-0" := by decide +kernel
example : text 1e-7 = "0.0000001" := by decide +kernel
example : text (0.1 + 0.2) = "0.30000000000000004" := by decide +kernel
example : text (Float.ofBits 0x3E60000000000000) = "0.000000029802322387695313" := by decide +kernel

end Spreadsheet.Decimal
