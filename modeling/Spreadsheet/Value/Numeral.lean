import Spreadsheet.Decimal.Reader
import Spreadsheet.Decimal.Shortest
import Spreadsheet.Text.Blank

/-!
# Numbers as text

A number is written as its shortest decimal, and zero has no sign.  A text is
read as a number when it is a decimal, with any number of percent signs behind
it.  Each of them divides by a hundred, and white space may stand between them
and the decimal.  The names of the special floats are no numbers.
-/

namespace Spreadsheet.Value

open Spreadsheet.Text (isDigit trimStart)

/-- The text of a number. -/
def numberText (x : Float) : String := if x == 0.0 then "0" else Decimal.text x

/-- Reads a decimal that starts, after signs, with a digit or a point. -/
def readPlain? (cs : List Char) : Option Float :=
  match cs.dropWhile fun c => c = '+' || c = '-' with
  | c :: _ => if isDigit c || c = '.' then Decimal.read? cs else none
  | [] => none

/-- Reads a decimal with percent signs behind it, from the end.  After a percent sign white space
does not count. -/
def readReversed? (afterPercent : Bool) : List Char → Option Float
  | [] => none
  | c :: cs =>
    if c = '%' then (readReversed? true cs).map (· / 100.0)
    else if afterPercent && Text.isBlank c then readReversed? true cs
    else
      let text := (c :: cs).reverse
      readPlain? (if afterPercent then trimStart text else text)

/-- Reads a number, with or without percent signs. -/
def readNumber? (s : String) : Option Float := readReversed? false s.toList.reverse

/-! ## Tests -/

example : numberText (-0.0) = "0" := by decide +kernel
example : readNumber? "12.5%" = some 0.125 := by decide +kernel
example : readNumber? "50 % %" = some 0.005 := by decide +kernel
example : readNumber? "inf" = none := by decide +kernel
example : readNumber? " 1" = none := by decide +kernel
example : readNumber? "+-1" = none := by decide +kernel

end Spreadsheet.Value
