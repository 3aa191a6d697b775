import Mathlib.Data.Nat.Basic
import Mathlib.Order.Basic
import Mathlib.Tactic.Tauto
import Spreadsheet.Functions.Lookups

/-!
# Parts of ranges

A range is *within* another when all its cells are.  The functions that narrow a
range give one within it: its rows, its columns, and what `INDEX` and the
lookups make of them.  The cells of a row and of a column are counted from the
first one of the range (`cells_row`, `cells_column`).
-/

namespace Spreadsheet.Grid.Range

variable {r s t : Range}

/-- Whether a range lies inside another. -/
def Within (r s : Range) : Prop :=
  s.top ≤ r.top ∧ r.bottom ≤ s.bottom ∧ s.left ≤ r.left ∧ r.right ≤ s.right

namespace Within

theorem refl (r : Range) : r.Within r := ⟨le_rfl, le_rfl, le_rfl, le_rfl⟩

theorem trans (h₁ : r.Within s) (h₂ : s.Within t) : r.Within t :=
  ⟨h₂.1.trans h₁.1, h₁.2.1.trans h₂.2.1, h₂.2.2.1.trans h₁.2.2.1, h₁.2.2.2.trans h₂.2.2.2⟩

/-- A cell of a part is a cell of the whole. -/
theorem contains {row column : Nat} (h : r.Within s) (hc : r.contains row column = true) :
    s.contains row column = true := by
  obtain ⟨htop, hbottom, hleft, hright⟩ := h
  simp only [Range.contains, Bool.and_eq_true, decide_eq_true_eq] at hc ⊢
  omega

end Within

/-! ## Narrowing -/

theorem row_within (r : Range) (i : Nat) (h : i < r.rows) : (r.row i h).Within r := by
  have := r.top_le
  simp only [rows] at h
  refine ⟨?_, ?_, le_rfl, le_rfl⟩ <;> simp only [row] <;> omega

theorem column_within (r : Range) (i : Nat) (h : i < r.columns) : (r.column i h).Within r := by
  have := r.left_le
  simp only [columns] at h
  refine ⟨le_rfl, le_rfl, ?_, ?_⟩ <;> simp only [column] <;> omega

end Range

end Spreadsheet.Grid

namespace Spreadsheet.Functions

open Spreadsheet.Grid (Range)

theorem narrowRange_within (r : Range) (row : Option (Fin r.rows))
    (column : Option (Fin r.columns)) :
    (narrowRange r row column).Within r := by
  cases row with
  | none =>
    cases column with
    | none => exact .refl r
    | some j => exact r.column_within j j.isLt
  | some i =>
    cases column with
    | none => exact r.row_within i i.isLt
    | some j => exact (Range.column_within (r.row i i.isLt) j j.isLt).trans (r.row_within i i.isLt)

theorem Axis.line_within (a : Axis) (r : Range) (i : Nat) (h : i < a.depth r) :
    (a.line r i h).Within r := by
  cases a with
  | horizontal => exact r.row_within i h
  | vertical => exact r.column_within i h

end Spreadsheet.Functions

namespace Spreadsheet.Grid.Range

/-! ## Cells and parts -/

variable {r s : Range}

theorem mem_rowIndices {row : Nat} : row ∈ r.rowIndices ↔ r.top ≤ row ∧ row ≤ r.bottom := by
  have := r.top_le
  simp only [rowIndices, rows, List.mem_range'_1]
  omega

theorem mem_columnIndices {column : Nat} :
    column ∈ r.columnIndices ↔ r.left ≤ column ∧ column ≤ r.right := by
  have := r.left_le
  simp only [columnIndices, columns, List.mem_range'_1]
  omega

theorem contains_iff {row column : Nat} :
    r.contains row column = true ↔
      (r.top ≤ row ∧ row ≤ r.bottom) ∧ r.left ≤ column ∧ column ≤ r.right := by
  simp only [contains, Bool.and_eq_true, decide_eq_true_eq]
  tauto

/-- The first cell of a range belongs to it. -/
theorem contains_first (r : Range) : r.contains r.top r.left = true :=
  contains_iff.2 ⟨⟨le_rfl, r.top_le⟩, le_rfl, r.left_le⟩

/-- The cells of a row, from left to right. -/
theorem cells_row (r : Range) (i : Nat) (h : i < r.rows) :
    (r.row i h).cells = (List.range r.columns).map fun j => (r.top + i, r.left + j) := by
  have hrows : (r.row i h).rowIndices = [r.top + i] := by
    rw [rowIndices, rows, row, Nat.sub_self]
    rfl
  have hcolumns : (r.row i h).columnIndices = (List.range r.columns).map (r.left + ·) :=
    List.range'_eq_map_range
  rw [cells, hrows, hcolumns, List.flatMap_singleton, List.map_map]
  rfl

/-- The cells of a column, one below the other. -/
theorem cells_column (r : Range) (j : Nat) (h : j < r.columns) :
    (r.column j h).cells = (List.range r.rows).map fun i => (r.top + i, r.left + j) := by
  have hrows : (r.column j h).rowIndices = (List.range r.rows).map (r.top + ·) :=
    List.range'_eq_map_range
  have hcolumns : (r.column j h).columnIndices = [r.left + j] := by
    rw [columnIndices, columns, column, Nat.sub_self]
    rfl
  simp only [cells, hrows, hcolumns, List.map_cons, List.map_nil, List.flatMap_map]
  exact List.map_eq_flatMap.symm

end Spreadsheet.Grid.Range
