import Spreadsheet.Grid.Column
import Spreadsheet.Decimal.Reader
import Spreadsheet.Decimal.Shortest
import Spreadsheet.Text.Blank

/-!
# Cell addresses

An address names a cell by its row and its column, both counted from zero.  Its
text has the column letters first and then the row number, which counts from
one.  A `$` in front of either is kept and has no other meaning.

Both indices are below `indexLimit`.  That is a field of the type, so ranges
and whatever is computed from addresses need no check of their own.
-/

namespace Spreadsheet.Grid

open Spreadsheet.Text (trim isAsciiLetter isDigit)
open Spreadsheet.Decimal (numberBelow digitsOf)

/-- The name of a cell. -/
structure Address where
  /-- The row, from zero. -/
  row : Nat
  /-- The column, from zero. -/
  column : Nat
  /-- Whether the row is marked with a `$`. -/
  rowAbsolute : Bool := false
  /-- Whether the column is marked with a `$`. -/
  columnAbsolute : Bool := false
  /-- The row is an index. -/
  row_lt : row < indexLimit := by decide
  /-- The column is an index. -/
  column_lt : column < indexLimit := by decide
deriving DecidableEq, Repr

namespace Address

/-- A `$` at the start of a text, and the rest. -/
def takeDollar : List Char → Bool × List Char
  | '$' :: cs => (true, cs)
  | cs => (false, cs)

/-- The address with a row number that counts from one, and a column. -/
def ofRowNumber (text : String) (columnAbsolute rowAbsolute : Bool) (column n : Nat) :
    Except Error Address :=
  if n = 0 then .error (.address (.zeroRow text))
  else if h : n - 1 < indexLimit ∧ column < indexLimit then
    .ok ⟨n - 1, column, rowAbsolute, columnAbsolute, h.1, h.2⟩
  else .error (.address (.badRow text))

/-- Reads an address, with white space around it. -/
def read (s : String) : Except Error Address :=
  let text := trim s
  if text.isEmpty then .error (.address .empty)
  else
    let (columnAbsolute, cs) := takeDollar text.toList
    let letters := cs.takeWhile isAsciiLetter
    if letters.isEmpty then .error (.address (.noColumn text))
    else
      match columnOfLetters letters with
      | .error e => .error e
      | .ok column =>
        let (rowAbsolute, digits) := takeDollar (cs.dropWhile isAsciiLetter)
        let n := numberBelow indexLimit 0 digits
        if digits.isEmpty || !digits.all isDigit || indexLimit ≤ n then
          .error (.address (.badRow text))
        else ofRowNumber text columnAbsolute rowAbsolute column n

/-- The text of an address. -/
def text (a : Address) : String :=
  (if a.columnAbsolute then "$" else "") ++ columnLetters a.column
    ++ (if a.rowAbsolute then "$" else "") ++ String.ofList (digitsOf (a.row + 1))

/-! ## Tests -/

example : (read " $B$2 ").toOption = some ⟨1, 1, true, true, by decide, by decide⟩ := by
  decide +kernel
example : (read "aa10").toOption.map text = some "AA10" := by decide +kernel
example : (read "A0").toOption = none := by decide +kernel
example : (read "A1B").toOption = none := by decide +kernel

end Address

end Spreadsheet.Grid
