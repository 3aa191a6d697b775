import Spreadsheet.Grid.Change
import Spreadsheet.Grid.Content
import Spreadsheet.Grid.Range

/-!
# Worksheets

A worksheet has a size and stores the cells that were written to.  Reading a
cell that is not stored gives the empty content.  Writing outside the size
enlarges the sheet, and giving it a smaller size drops the cells that no longer
fit.  A cell has its content and, apart from that, a display format.  Rows and
columns can be hidden, which matters only to those who ask.

The stored cells are a list without two entries for one cell, and a new entry
replaces the one before it.
-/

namespace Spreadsheet.Grid

/-- A stored cell. -/
structure Cell where
  /-- What the cell holds. -/
  content : Content := .empty
  /-- The format it is displayed in. -/
  format : Option String := none
deriving DecidableEq

/-- A sheet of cells. -/
structure Worksheet where
  /-- The name. -/
  name : String
  /-- The number of rows. -/
  rows : Nat := 100
  /-- The number of columns. -/
  columns : Nat := 26
  /-- The stored cells, by row and column. -/
  cells : List ((Nat × Nat) × Cell) := []
  /-- The hidden rows. -/
  hiddenRows : List Nat := []
  /-- The hidden columns. -/
  hiddenColumns : List Nat := []
deriving DecidableEq

namespace Worksheet

/-- The stored cell. -/
def cell? (w : Worksheet) (row column : Nat) : Option Cell := w.cells.lookup (row, column)

/-- What a cell holds. -/
def content (w : Worksheet) (row column : Nat) : Content :=
  match w.cell? row column with
  | some c => c.content
  | none => .empty

/-- The display format of a cell. -/
def format? (w : Worksheet) (row column : Nat) : Option String :=
  (w.cell? row column).bind (·.format)

/-- The sheet, large enough for a cell. -/
def growTo (w : Worksheet) (row column : Nat) : Worksheet :=
  { w with rows := max w.rows (row + 1), columns := max w.columns (column + 1) }

/-- The sheet without a cell. -/
def clear (w : Worksheet) (row column : Nat) : Worksheet :=
  { w with cells := w.cells.filter fun entry => entry.1 ≠ (row, column) }

/-- The sheet with a cell changed.  A cell that is not stored yet starts empty. -/
def modify (w : Worksheet) (row column : Nat) (f : Cell → Cell) : Worksheet :=
  let cell := f ((w.cell? row column).getD {})
  { w.growTo row column with cells := ((row, column), cell) :: (w.clear row column).cells }

/-- The sheet with other content in a cell. -/
def setContent (w : Worksheet) (row column : Nat) (c : Content) : Worksheet :=
  w.modify row column fun cell => { cell with content := c }

/-- The sheet with another display format of a cell. -/
def setFormat (w : Worksheet) (row column : Nat) (format : String) : Worksheet :=
  w.modify row column fun cell => { cell with format := some format }

/-! ### Cells named by texts -/

namespace InPlace

/-- Puts content into the cell that a text names. -/
def setContentAt (address : String) (c : Content) : Change Worksheet Unit := do
  let a ← Change.check (Address.read address)
  set ((← get).setContent a.row a.column c)

/-- Puts a formula into the cell that a text names. -/
def setFormulaAt (address text : String) : Change Worksheet Unit :=
  setContentAt address (.formula text)

/-- Gives a display format to the cell that a text names. -/
def setFormatAt (address format : String) : Change Worksheet Unit := do
  let a ← Change.check (Address.read address)
  set ((← get).setFormat a.row a.column format)

end InPlace

/-- The sheet with other content in the cell that a text names. -/
def setContentAt (w : Worksheet) (address : String) (c : Content) : Except Error Worksheet :=
  (InPlace.setContentAt address c).result w

/-- The sheet with a formula in the cell that a text names. -/
def setFormulaAt (w : Worksheet) (address text : String) : Except Error Worksheet :=
  (InPlace.setFormulaAt address text).result w

/-- The sheet with another display format of the cell that a text names. -/
def setFormatAt (w : Worksheet) (address format : String) : Except Error Worksheet :=
  (InPlace.setFormatAt address format).result w

/-- What the cell holds that a text names. -/
def contentAt (w : Worksheet) (address : String) : Except Error Content :=
  (Address.read address).map fun a => w.content a.row a.column

/-! ### Blocks and sizes -/

/-- The sheet with the cells of a range filled row by row, as far as the contents reach. -/
def fill (w : Worksheet) (r : Range) (contents : List Content) : Worksheet :=
  (r.cells.zip contents).foldl (fun w entry => w.setContent entry.1.1 entry.1.2 entry.2) w

/-- The sheet in another size, without the cells that do not fit. -/
def resize (w : Worksheet) (rows columns : Nat) : Worksheet :=
  { w with
    rows := rows
    columns := columns
    cells := w.cells.filter fun entry => entry.1.1 < rows && entry.1.2 < columns }

/-- Whether a row is hidden. -/
def isRowHidden (w : Worksheet) (row : Nat) : Bool := w.hiddenRows.contains row

/-- Whether a column is hidden. -/
def isColumnHidden (w : Worksheet) (column : Nat) : Bool := w.hiddenColumns.contains column

/-- A set of indices with one index in or out of it. -/
def toggle (indices : List Nat) (index : Nat) (hidden : Bool) : List Nat :=
  let others := indices.filter (· ≠ index)
  if hidden then index :: others else others

/-- The sheet with a row hidden or shown. -/
def setRowHidden (w : Worksheet) (row : Nat) (hidden : Bool) : Worksheet :=
  { w with hiddenRows := toggle w.hiddenRows row hidden }

/-- The sheet with a column hidden or shown. -/
def setColumnHidden (w : Worksheet) (column : Nat) (hidden : Bool) : Worksheet :=
  { w with hiddenColumns := toggle w.hiddenColumns column hidden }

/-- The sheet under another name. -/
def rename (w : Worksheet) (name : String) : Worksheet := { w with name := name }

/-! ## Tests -/

example : ((Worksheet.mk "s" 1 1 [] [] []).setContent 2 0 (.boolean true)).rows = 3 := by decide
example : ((Worksheet.mk "s" 1 1 [] [] []).setContent 0 0 (.boolean true)).content 0 0
    = .boolean true := by decide
example : (((Worksheet.mk "s" 9 9 [] [] []).setContent 2 0 (.boolean true)).resize 2 2).content 2 0
    = .empty := by decide

end Worksheet

end Spreadsheet.Grid
