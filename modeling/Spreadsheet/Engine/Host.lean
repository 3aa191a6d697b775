import Spreadsheet.Grid.Workbook
import Spreadsheet.Value.Display

/-!
# Hosts

A host is whatever formulas are computed against: sheets with names and sizes,
the contents of their cells, and what is known of their display.  It may know
names that are no functions.  A workbook is a host that knows none.

Sheets are given by their index.  A name stands for the first sheet that has it.
-/

namespace Spreadsheet

open Spreadsheet.Grid (Content Workbook)

/-- What formulas are computed against. -/
structure Host where
  /-- The number of sheets. -/
  sheetCount : Nat
  /-- The name of a sheet. -/
  sheetName? : Nat → Option String
  /-- The sheet of formulas that are not given one. -/
  selected : Nat
  /-- The number of rows of a sheet. -/
  rows : Nat → Nat
  /-- The number of columns of a sheet. -/
  columns : Nat → Nat
  /-- What a cell holds, by its sheet, row and column. -/
  content : Nat → Nat → Nat → Content
  /-- The display format of a cell. -/
  format? : Nat → Nat → Nat → Option String := fun _ _ _ => none
  /-- Whether a row of a sheet is hidden. -/
  isRowHidden : Nat → Nat → Bool := fun _ _ => false
  /-- Whether a column of a sheet is hidden. -/
  isColumnHidden : Nat → Nat → Bool := fun _ _ => false
  /-- The text of a value in a display format. -/
  render : Value → String → String := Value.display
  /-- The value of a name that is neither a function's nor a reference, with its arguments. -/
  resolve? : String → List Value → Option Value := fun _ _ => none
  /-- The present moment. -/
  now : Calendar.Moment := ⟨⟨0⟩, 0, 0⟩
  /-- A random number from 0, included, to 1, excluded. -/
  draw : Float := 0.0

/-- The index of the first sheet with a name. -/
def Host.sheetIndex? (h : Host) (name : String) : Option Nat :=
  (List.range h.sheetCount).find? fun i => h.sheetName? i == some name

/-- A workbook as a host. -/
def Grid.Workbook.host (b : Workbook) : Host where
  sheetCount := b.sheets.length
  sheetName? i := b.sheets[i]?.map (·.name)
  selected := b.selected
  rows i := (b.sheets[i]?.map (·.rows)).getD 0
  columns i := (b.sheets[i]?.map (·.columns)).getD 0
  content i row column := (b.sheets[i]?.map (·.content row column)).getD .empty
  format? i row column := b.sheets[i]?.bind (·.format? row column)
  isRowHidden i row := (b.sheets[i]?.map (·.isRowHidden row)).getD false
  isColumnHidden i column := (b.sheets[i]?.map (·.isColumnHidden column)).getD false

end Spreadsheet
