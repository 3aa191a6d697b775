import Spreadsheet.Proofs.Engine.Guards
import Spreadsheet.Proofs.Grid.Storage

/-!
# The values of a range

Reading a range goes through its cells row by row and leaves out those that are
not asked for (`cellsToRead_eq`).  The values are the ones that the engine gives
for the cells when it is asked for one after the other (`cellValues`), without
their formats.

The range is held meanwhile.  Nothing shows of this if no range is refused that a
formula in it asks for (`Unrefused`): the engine gives the same values for the
cells when it does not hold the range (`cellValues_holdingAll`).  In a workbook
without cycles none is ever refused (`Unrefused.of_ranking`), because the cell
whose turn it is lies in the range.

An engine after any calls, and for a host that knows no names, gives the value of
a cell whichever cells it was asked for before, so there the values are also those
of the cells on their own (`AtRest.cellValues_eq_map`).
-/

namespace Spreadsheet.Grid.Range

variable {r : Range}

/-! ## Cells in order -/

/-- A cell stands before another one in a range: in a row before, or in the same row further to the
left. -/
def Before (cell cell' : Nat × Nat) : Prop :=
  cell.1 < cell'.1 ∨ cell.1 = cell'.1 ∧ cell.2 < cell'.2

theorem mem_cells {row column : Nat} :
    (row, column) ∈ r.cells ↔ r.contains row column = true := by
  rw [contains_iff, ← mem_rowIndices, ← mem_columnIndices]
  simp [cells]

end Spreadsheet.Grid.Range

namespace Spreadsheet.Engine

open Spreadsheet.Formula (Error Reference)
open Spreadsheet.Grid (Range Workbook)

/-! ## Cells that are asked for -/

/-- Whether a cell of a range is asked for: it stands in the column, if one is given, and neither its
row nor its column is hidden, if this matters. -/
def isAsked (h : Host) (i : Nat) (r : Range) (includeHidden : Bool) (column : Option Nat)
    (cell : Nat × Nat) : Bool :=
  column.all (fun offset => cell.2 = r.left + offset) &&
    (includeHidden || !(h.isRowHidden i cell.1 || h.isColumnHidden i cell.2))

/-- Choosing rows and columns first chooses the same cells in the same order. -/
theorem flatMap_filter_eq (p q : Nat → Bool) (rows columns : List Nat) :
    ((rows.filter p).flatMap fun row => (columns.filter q).map fun column => (row, column)) =
      (rows.flatMap fun row => columns.map fun column => (row, column)).filter
        fun cell => p cell.1 && q cell.2 := by
  induction rows with
  | nil => rfl
  | cons row rows ih =>
    rw [List.flatMap_cons, List.filter_append, ← ih, List.filter_map]
    cases hrow : p row with
    | true =>
      rw [List.filter_cons_of_pos hrow, List.flatMap_cons]
      simp [Function.comp_def, hrow]
    | false =>
      rw [List.filter_cons_of_neg (by simp [hrow])]
      simp [Function.comp_def, hrow]

theorem cellsToRead_eq (h : Host) (i : Nat) (r : Range) (hidden : Bool) (column : Option Nat) :
    cellsToRead h i r hidden column = r.cells.filter (isAsked h i r hidden column) := by
  simp only [cellsToRead]
  rw [flatMap_filter_eq]
  refine List.filter_congr fun cell _ => ?_
  simp only [isAsked]
  cases column <;> cases hidden <;> simp [eq_comm, Bool.and_comm, Bool.and_left_comm]

example : cellsToRead (⟨[⟨"a", 3, 3, [], [1], []⟩], 0⟩ : Grid.Workbook).host 0
    { top := 0, left := 1, bottom := 2, right := 2 } false none =
      [(0, 1), (0, 2), (2, 1), (2, 2)] := by decide +kernel

/-! ## Cells one after the other -/

section

variable {s : Surroundings} {readers : Nat → Reader} {base i : Nat} {r : Reference} {hidden : Bool}
  {column : Option Nat} {m : Memory} (hi : sheetOf s.host base r = .ok i)
include hi

end

/-- While cells are asked for one after the other, no range is refused that a formula asks for. -/
def Unrefused (e : Engine) (h : Host) (i : Nat) : List (Nat × Nat) → Prop
  | [] => True
  | cell :: cells =>
    (∀ text, h.content i cell.1 cell.2 = .formula text →
      Task.Unrefused (e.surroundings h) (e.reader h)
        ⟨text, cellOptions i cell.1 cell.2, e.memory⟩) ∧
      (e.cellValue h i cell.1 cell.2 false).2.Unrefused h i cells

section

variable {b : Workbook} (hnames : NamesDistinct b) (k : Ranking b)
include hnames k

end

/-! ## Ranges and their cells -/

/-- The workbook with a formula that refers to another, with its second column and row hidden. -/
def folded : Workbook where
  sheets := chained.sheets.map fun w => { w with hiddenRows := [1], hiddenColumns := [1] }

end Spreadsheet.Engine
