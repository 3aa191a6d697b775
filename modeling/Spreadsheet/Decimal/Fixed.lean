import Spreadsheet.Decimal.Shortest

/-!
# A fixed number of decimal places

The exact value of a float, rounded to a given number of places.  A half goes
to the even neighbour.  The sign is left to the caller, who may want to drop it
when every digit shown is zero.
-/

namespace Spreadsheet.Decimal

/-- The whole number nearest to a fraction, a half to the even one. -/
def roundHalfEven (num den : Nat) : Nat :=
  let whole := num / den
  let rest := num % den
  if 2 * rest < den || (2 * rest = den && whole % 2 = 0) then whole else whole + 1

/-- The digits of a number, with zeros in front so that a digit stands before the point. -/
def padded (places n : Nat) : List Char :=
  let digits := digitsOf n
  List.replicate (places + 1 - digits.length) '0' ++ digits

/-- A float without its sign, with a fixed number of places. -/
def fixed (places : Nat) (x : Float) : List Char :=
  match shape x with
  | .nan => ['N', 'a', 'N']
  | .infinite _ => ['i', 'n', 'f']
  | .finite b =>
    let (num, den) := b.fraction
    positional (padded places (roundHalfEven (num * Nat.pow 10 places) den)) (-(places : Int))

/-! ## Tests -/

example : fixed 2 1234.5 = ['1', '2', '3', '4', '.', '5', '0'] := by decide +kernel
example : fixed 0 2.5 = ['2'] := by decide +kernel
example : fixed 1 0.25 = ['0', '.', '2'] := by decide +kernel
example : fixed 2 (-1.005) = ['1', '.', '0', '0'] := by decide +kernel

end Spreadsheet.Decimal
