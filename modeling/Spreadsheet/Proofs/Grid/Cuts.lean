import Mathlib.Data.List.Perm.Basic
import Spreadsheet.Proofs.Grid.Part

/-!
# Ranges cut in two

A range can be cut between two of its rows or between two of its columns.  The
cells of an upper part and those of the part below it are the cells of the range
in their order (`CutByRows.cells_eq`).  Of a left and a right part the cells
are those of the range as well, but rows are interrupted by the cut, so the order
is another one (`CutByColumns.cells_perm`).
-/

namespace Spreadsheet.Grid.Range

/-- A range is cut between two rows. -/
structure CutByRows (r upper lower : Range) : Prop where
  /-- The upper part begins with the range. -/
  top : upper.top = r.top
  /-- The lower part follows the upper one. -/
  next : lower.top = upper.bottom + 1
  /-- The lower part ends with the range. -/
  bottom : lower.bottom = r.bottom
  /-- The upper part has all columns. -/
  upper_columns : upper.left = r.left ∧ upper.right = r.right
  /-- So has the lower part. -/
  lower_columns : lower.left = r.left ∧ lower.right = r.right

/-- A range is cut between two columns. -/
structure CutByColumns (r first second : Range) : Prop where
  /-- The first part begins with the range. -/
  left : first.left = r.left
  /-- The second part follows the first one. -/
  next : second.left = first.right + 1
  /-- The second part ends with the range. -/
  right : second.right = r.right
  /-- The first part has all rows. -/
  first_rows : first.top = r.top ∧ first.bottom = r.bottom
  /-- So has the second part. -/
  second_rows : second.top = r.top ∧ second.bottom = r.bottom

variable {r first second : Range}

namespace CutByRows

theorem first_within (h : r.CutByRows first second) : first.Within r := by
  have := h.bottom
  have := h.next
  have := second.top_le
  exact ⟨h.top.ge, by omega, h.upper_columns.1.ge, h.upper_columns.2.le⟩

theorem second_within (h : r.CutByRows first second) : second.Within r := by
  have := h.top
  have := h.next
  have := first.top_le
  exact ⟨by omega, h.bottom.le, h.lower_columns.1.ge, h.lower_columns.2.le⟩

theorem rowIndices_eq (h : r.CutByRows first second) :
    r.rowIndices = first.rowIndices ++ second.rowIndices := by
  obtain ⟨htop, hnext, hbottom, -, -⟩ := h
  have := first.top_le
  have := second.top_le
  have hsecond : second.top = first.top + first.rows := by
    unfold rows
    omega
  have hrows : r.rows = first.rows + second.rows := by
    unfold rows
    omega
  rw [rowIndices, rowIndices, rowIndices, hsecond, List.range'_append_1, hrows, htop]

/-- The cells of both parts are those of the range, in their order. -/
theorem cells_eq (h : r.CutByRows first second) : r.cells = first.cells ++ second.cells := by
  have hfirst : first.columnIndices = r.columnIndices := by
    rw [columnIndices, columnIndices, columns, columns, h.upper_columns.1, h.upper_columns.2]
  have hsecond : second.columnIndices = r.columnIndices := by
    rw [columnIndices, columnIndices, columns, columns, h.lower_columns.1, h.lower_columns.2]
  rw [cells, cells, cells, h.rowIndices_eq, List.flatMap_append, hfirst, hsecond]

end CutByRows

namespace CutByColumns

theorem first_within (h : r.CutByColumns first second) : first.Within r := by
  have := h.right
  have := h.next
  have := second.left_le
  exact ⟨h.first_rows.1.ge, h.first_rows.2.le, h.left.ge, by omega⟩

theorem second_within (h : r.CutByColumns first second) : second.Within r := by
  have := h.left
  have := h.next
  have := first.left_le
  exact ⟨h.second_rows.1.ge, h.second_rows.2.le, by omega, h.right.le⟩

theorem columnIndices_eq (h : r.CutByColumns first second) :
    r.columnIndices = first.columnIndices ++ second.columnIndices := by
  obtain ⟨hleft, hnext, hright, -, -⟩ := h
  have := first.left_le
  have := second.left_le
  have hsecond : second.left = first.left + first.columns := by
    unfold columns
    omega
  have hcolumns : r.columns = first.columns + second.columns := by
    unfold columns
    omega
  rw [columnIndices, columnIndices, columnIndices, hsecond, List.range'_append_1, hcolumns, hleft]

/-- The cells of both parts are those of the range, in another order. -/
theorem cells_perm (h : r.CutByColumns first second) :
    (first.cells ++ second.cells).Perm r.cells := by
  have hfirst : first.rowIndices = r.rowIndices := by
    rw [rowIndices, rowIndices, rows, rows, h.first_rows.1, h.first_rows.2]
  have hsecond : second.rowIndices = r.rowIndices := by
    rw [rowIndices, rowIndices, rows, rows, h.second_rows.1, h.second_rows.2]
  simp only [cells, hfirst, hsecond, h.columnIndices_eq, List.map_append]
  exact List.flatMap_append_perm _ _ _

end CutByColumns

/-- Two parts make up a range that is cut between rows or between columns. -/
def Cut (r first second : Range) : Prop :=
  r.CutByRows first second ∨ r.CutByColumns first second

namespace Cut

theorem first_within (h : r.Cut first second) : first.Within r := by
  obtain h | h := h
  · exact h.first_within
  · exact h.first_within

theorem second_within (h : r.Cut first second) : second.Within r := by
  obtain h | h := h
  · exact h.second_within
  · exact h.second_within

theorem cells_perm (h : r.Cut first second) : (first.cells ++ second.cells).Perm r.cells := by
  obtain h | h := h
  · rw [h.cells_eq]
  · exact h.cells_perm

end Cut

end Spreadsheet.Grid.Range
