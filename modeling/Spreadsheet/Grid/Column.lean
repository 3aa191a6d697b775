import Spreadsheet.Grid.Error
import Spreadsheet.Text.CaseMap
import Spreadsheet.Text.Letter

/-!
# Column letters

Columns are numbered from zero and written with letters: `A` to `Z`, then `AA`,
`AB` and so on.  The letters are a number in base 26 without a zero digit, so
that `A` counts one, and the column is one less than that number.  Indices are
below `indexLimit`, which reading checks digit by digit.
-/

namespace Spreadsheet.Grid

open Spreadsheet.Text (isAsciiLetter asciiUpper)

/-- Every row and column index is below this number, two to the power of 64. -/
def indexLimit : Nat := 18446744073709551616

/-- The letters of a number in base 26 without a zero digit. -/
def lettersOf (n : Nat) : List Char :=
  if n = 0 then [] else lettersOf ((n - 1) / 26) ++ [Char.ofNat (65 + (n - 1) % 26)]
termination_by n
decreasing_by omega

/-- The letters of a column. -/
def columnLetters (column : Nat) : String := String.ofList (lettersOf (column + 1))

/-- What a letter counts. -/
def letterValue (c : Char) : Nat := (asciiUpper c).toNat - 64

/-- Reads letters after a number of others.  `all` is the text they belong to. -/
def readLetters (all : List Char) (n : Nat) : List Char → Except Error Nat
  | [] => .ok n
  | c :: cs =>
    if isAsciiLetter c then
      let next := 26 * n + letterValue c
      if next < indexLimit then readLetters all next cs
      else .error (.address (.columnTooLarge (String.ofList all)))
    else .error (.address (.badLetter c))

/-- The column that letters name. -/
def columnOfLetters (letters : List Char) : Except Error Nat :=
  match letters with
  | [] => .error (.address .noLetters)
  | _ => (readLetters letters 0 letters).map (· - 1)

/-! ## Tests -/

example : lettersOf 28 = ['A', 'B'] := by decide +kernel
example : lettersOf 703 = ['A', 'A', 'A'] := by decide +kernel
example : (columnOfLetters ['a', 'B']).toOption = some 27 := by decide
example : (columnOfLetters ['Z', 'Z']).toOption = some 701 := by decide

end Spreadsheet.Grid
