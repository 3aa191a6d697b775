import Spreadsheet.Grid.Address

/-!
# Ranges

A range is a block of cells, given by its first and its last row and column.
The type holds that the first is not after the last and that all four are
indices.  A range is written as its two corners with a colon between them, or
as one address when it has one cell.
-/

namespace Spreadsheet.Grid

open Spreadsheet.Text (trim)

/-- A block of cells. -/
@[ext] structure Range where
  /-- The first row. -/
  top : Nat
  /-- The first column. -/
  left : Nat
  /-- The last row. -/
  bottom : Nat
  /-- The last column. -/
  right : Nat
  /-- There is a row. -/
  top_le : top ≤ bottom := by decide
  /-- There is a column. -/
  left_le : left ≤ right := by decide
  /-- The last row is an index. -/
  bottom_lt : bottom < indexLimit := by decide
  /-- The last column is an index. -/
  right_lt : right < indexLimit := by decide
deriving Repr

/-- Blocks are equal when their four bounds are. -/
instance : DecidableEq Range := fun r s =>
  decidable_of_iff (r.top = s.top ∧ r.left = s.left ∧ r.bottom = s.bottom ∧ r.right = s.right)
    Range.ext_iff.symm

namespace Range

/-- The block with two addresses at opposite corners. -/
def ofCorners (a b : Address) : Range where
  top := min a.row b.row
  left := min a.column b.column
  bottom := max a.row b.row
  right := max a.column b.column
  top_le := by omega
  left_le := by omega
  bottom_lt := by have := a.row_lt; have := b.row_lt; omega
  right_lt := by have := a.column_lt; have := b.column_lt; omega

/-- The block of one cell. -/
def single (a : Address) : Range := ofCorners a a

/-- The number of rows. -/
def rows (r : Range) : Nat := r.bottom - r.top + 1

/-- The number of columns. -/
def columns (r : Range) : Nat := r.right - r.left + 1

/-- Whether the block has one cell. -/
def isSingle (r : Range) : Bool := r.top = r.bottom && r.left = r.right

/-- Whether a cell lies in the block. -/
def contains (r : Range) (row column : Nat) : Bool :=
  r.top ≤ row && row ≤ r.bottom && r.left ≤ column && column ≤ r.right

/-- The row indices, in order. -/
def rowIndices (r : Range) : List Nat := List.range' r.top r.rows

/-- The column indices, in order. -/
def columnIndices (r : Range) : List Nat := List.range' r.left r.columns

/-- The cells, row by row. -/
def cells (r : Range) : List (Nat × Nat) :=
  r.rowIndices.flatMap fun row => r.columnIndices.map fun column => (row, column)

/-- The row of the block that `i` others precede. -/
def row (r : Range) (i : Nat) (h : i < r.rows) : Range :=
  { r with
    top := r.top + i
    bottom := r.top + i
    top_le := by omega
    bottom_lt := by have := r.bottom_lt; have := r.top_le; unfold rows at h; omega }

/-- The column of the block that `i` others precede. -/
def column (r : Range) (i : Nat) (h : i < r.columns) : Range :=
  { r with
    left := r.left + i
    right := r.left + i
    left_le := by omega
    right_lt := by have := r.right_lt; have := r.left_le; unfold columns at h; omega }

/-- The first and the last address of the block. -/
def corners (r : Range) : Address × Address :=
  (⟨r.top, r.left, false, false, Nat.lt_of_le_of_lt r.top_le r.bottom_lt,
      Nat.lt_of_le_of_lt r.left_le r.right_lt⟩,
    ⟨r.bottom, r.right, false, false, r.bottom_lt, r.right_lt⟩)

/-- The text of a range. -/
def text (r : Range) : String :=
  if r.isSingle then r.corners.1.text else r.corners.1.text ++ ":" ++ r.corners.2.text

/-- The parts of a text before and after its first colon. -/
def splitColon? (cs : List Char) : Option (List Char × List Char) :=
  match cs.dropWhile (· ≠ ':') with
  | [] => none
  | _ :: rest => some (cs.takeWhile (· ≠ ':'), rest)

/-- Reads a range: two addresses with a colon between them, or one address. -/
def read (s : String) : Except Error Range :=
  let text := trim s
  match splitColon? text.toList with
  | some (first, second) =>
    match Address.read (String.ofList first), Address.read (String.ofList second) with
    | .ok a, .ok b => .ok (ofCorners a b)
    | .error e, _ => .error e
    | .ok _, .error e => .error e
  | none =>
    match Address.read text with
    | .ok a => .ok (single a)
    | .error _ => .error (.range text)

/-! ## Tests -/

example : (read "C3:A1").toOption.map text = some "A1:C3" := by decide +kernel
example : (read "B2").toOption.map cells = some [(1, 1)] := by decide +kernel
example : (read "A1:B2").toOption.map cells = some [(0, 0), (0, 1), (1, 0), (1, 1)] := by
  decide +kernel
example : (read "A1:").toOption = none := by decide +kernel

end Range

end Spreadsheet.Grid
