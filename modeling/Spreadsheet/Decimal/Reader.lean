import Spreadsheet.Decimal.Binary
import Spreadsheet.Text.Letter

/-!
# Reading a decimal number

The form read here is an optional sign, digits with an optional point among
them, at least one digit in all, and an optional exponent: `e` or `E`, an
optional sign and digits.  Nothing else may follow.  The result is the float
nearest to the number, an infinity when it is too large.

An exponent takes no more digits once it has reached `exponentLimit`.  That
shows when as many zeros before or behind the point make up for it.

Texts are long and floats are not, so a number that only has to be told from
others up to a bound is computed with `numberBelow`, and the nearest float with
the first `decisiveDigits` digits (`leadingPart`).  Both are linear in the text.
-/

namespace Spreadsheet.Decimal

open Spreadsheet.Text (isDigit digitValue)

/-! ## Numbers -/

/-- The number that digits stand for, read after others. -/
def number (acc : Nat) (digits : List Char) : Nat :=
  digits.foldl (fun n c => 10 * n + digitValue c) acc

/-- The number that digits stand for, read after others, up to the digit with which it reaches a
bound. -/
def numberBelow (bound acc : Nat) (digits : List Char) : Nat :=
  digits.foldl (fun n c => if n < bound then 10 * n + digitValue c else n) acc

/-- The sign in front of a text, and the rest. -/
def takeSign : List Char → Bool × List Char
  | '-' :: cs => (true, cs)
  | '+' :: cs => (false, cs)
  | cs => (false, cs)

/-- The exponent from which on no more digits are taken, two to the power of 16. -/
def exponentLimit : Nat := 65536

/-- The exponent that makes up a whole text.  No text is the exponent zero. -/
def readExponent? : List Char → Option Int
  | [] => some 0
  | c :: cs =>
    let (negative, digits) := takeSign cs
    if (c = 'e' || c = 'E') && !digits.isEmpty && digits.all isDigit then
      let n : Int := numberBelow exponentLimit 0 digits
      some (if negative then -n else n)
    else none

/-! ## Nearest floats -/

/-- So many digits, the first of them not zero, decide which float is nearest, apart from whether
anything follows them.  The numbers halfway between two floats have fewer. -/
def decisiveDigits : Nat := 800

/-- A number and a power of ten that it is scaled by, with the same nearest float as the number that
digits stand for.  A one stands for all that follows the decisive digits, unless that is zero. -/
def leadingPart (digits : List Char) : Nat × Nat :=
  let digits := digits.dropWhile (· = '0')
  let rest := digits.drop decisiveDigits
  if rest.all (· = '0') then (number 0 (digits.take decisiveDigits), rest.length)
  else (number 0 (digits.take decisiveDigits ++ ['1']), rest.length - 1)

/-- The float nearest to `digits * 10 ^ exponent`.  Powers far outside the range of the floats are
not computed. -/
def nearestFloat (digits : Nat) (exponent : Int) : Float :=
  let magnitude := (digits.log2 : Int) * 30103 / 100000 + exponent
  if digits = 0 || magnitude < -400 then 0.0
  else if 400 < magnitude then 1.0 / 0.0
  else Float.ofScientific digits (exponent < 0) exponent.natAbs

/-- Reads a decimal number. -/
def read? (cs : List Char) : Option Float :=
  let (negative, cs) := takeSign cs
  let whole := cs.takeWhile isDigit
  let rest := cs.dropWhile isDigit
  let (places, rest) :=
    match rest with
    | '.' :: tail => (tail.takeWhile isDigit, tail.dropWhile isDigit)
    | _ => ([], rest)
  if whole.isEmpty && places.isEmpty then none
  else
    (readExponent? rest).map fun exponent =>
      let (digits, scale) := leadingPart (whole ++ places)
      signed negative (nearestFloat digits (exponent - places.length + scale))

/-! ## Laws -/

theorem le_number (acc : Nat) (digits : List Char) : acc ≤ number acc digits := by
  induction digits generalizing acc with
  | nil => exact Nat.le_refl acc
  | cons c cs ih => exact Nat.le_trans (by omega) (ih (10 * acc + digitValue c))

theorem numberBelow_of_le {bound acc : Nat} (h : bound ≤ acc) (digits : List Char) :
    numberBelow bound acc digits = acc := by
  induction digits with
  | nil => rfl
  | cons c cs ih => simpa [numberBelow, Nat.not_lt.2 h] using ih

/-- Up to the bound no digit is left out. -/
theorem numberBelow_eq_number {bound acc : Nat} {digits : List Char}
    (h : number acc digits < bound) : numberBelow bound acc digits = number acc digits := by
  induction digits generalizing acc with
  | nil => rfl
  | cons c cs ih =>
    have hacc : acc < bound := Nat.lt_of_le_of_lt (le_number acc (c :: cs)) h
    simpa [numberBelow, number, hacc] using ih h

/-- What reaches the bound reaches it with digits left out, too. -/
theorem le_numberBelow_iff {bound acc : Nat} {digits : List Char} :
    bound ≤ numberBelow bound acc digits ↔ bound ≤ number acc digits := by
  induction digits generalizing acc with
  | nil => rfl
  | cons c cs ih =>
    by_cases hacc : acc < bound
    · simpa [numberBelow, number, hacc] using ih
    · have h : bound ≤ acc := Nat.le_of_not_lt hacc
      rw [numberBelow_of_le h]
      exact ⟨fun _ => Nat.le_trans h (le_number acc (c :: cs)), fun _ => h⟩

/-! ## Tests -/

example : read? ['1', '.', '5', 'e', '-', '1'] = some 0.15 := by decide +kernel
example : read? ['-', '.', '5'] = some (-0.5) := by decide +kernel
example : read? ['5', '.'] = some 5.0 := by decide +kernel
example : read? ['.'] = none := by decide +kernel
example : read? ['1', 'e'] = none := by decide +kernel
example : read? ['1', 'e', '9', '9', '9', '9'] = some (1.0 / 0.0) := by decide +kernel
example : readExponent? ['e', '6', '5', '5', '3', '6', '0'] = some 65536 := by decide
example : leadingPart ['0', '0', '7', '0'] = (70, 0) := by decide
example : leadingPart (List.replicate 800 '9' ++ ['0', '2', '0'])
    = (number 0 (List.replicate 800 '9') * 10 + 1, 2) := by decide +kernel

end Spreadsheet.Decimal
