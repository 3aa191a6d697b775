import Spreadsheet.Proofs.Engine.Guards
import Spreadsheet.Proofs.Engine.Trees

/-!
# Ranges of constants

To read a range that lies on its sheet gives the values of its cells in order,
and a cell without a formula has what it holds as its value
(`exists_answers_cells`).  So a range of which no cell holds a formula is read
without computing anything, and its values are those of `valuesOf`, for every
formula (`Constants.answers_cells`) and for an engine that is asked for one of
its columns only (`AtRest.rangeValues_constants`).  The same is true of all its
parts (`Constants.within`).
-/

namespace Spreadsheet.Engine

open Spreadsheet.Evaluation
open Spreadsheet.Formula (Error Reference)
open Spreadsheet.Grid (Content Range Workbook)

/-- The cells of a range lie on its sheet and hold no formulas. -/
structure Constants (h : Host) (i : Nat) (range : Range) : Prop where
  /-- The last row is on the sheet. -/
  bottom_lt : range.bottom < h.rows i
  /-- The last column is on the sheet. -/
  right_lt : range.right < h.columns i
  /-- No cell holds a formula. -/
  content : ∀ row column, range.contains row column = true →
    ∀ text, h.content i row column ≠ .formula text

/-- The values of the cells of a range, counted from the first one. -/
def constantAt (h : Host) (i : Nat) (range : Range) (row column : Nat) : Value :=
  .ofContent (h.content i (range.top + row) (range.left + column))

/-- What cells hold, as values. -/
def valuesOf (h : Host) (i : Nat) (cells : List (Nat × Nat)) : List Value :=
  cells.map fun cell => .ofContent (h.content i cell.1 cell.2)

/-- A reference that names no sheet is one to the sheet where it is computed. -/
theorem sheetOf_of_none {h : Host} {base : Nat} {r : Reference} (hr : r.sheet = none) :
    sheetOf h base r = .ok base := by
  rw [sheetOf, hr]

theorem raw_ofContent (content : Content) : (Value.ofContent content).raw = .ofContent content := by
  cases content <;> rfl

theorem settledValue_ofContent (q : Answers) (content : Content) :
    settledValue q (.ofContent content) = .ok (.ofContent content) := by
  cases content <;> rfl

/-! ## Cells to read -/

/-- Where hidden cells are read as well, all cells of a range are. -/
theorem cellsToRead_all (h : Host) (i : Nat) (r : Range) :
    cellsToRead h i r true none = r.cells := by
  simp only [cellsToRead, Bool.true_or, List.filter_true, Option.all_none, Bool.true_and]
  rfl

/-- Of a range that is read in one column only, the cells of that column are. -/
theorem cellsToRead_some (h : Host) (i : Nat) (r : Range) (j : Nat) (hj : j < r.columns) :
    cellsToRead h i r true (some j) = (r.column j hj).cells := by
  have hcolumns : (r.columnIndices.filter fun c => decide (r.left + j = c)) = [r.left + j] := by
    have hmem : r.left + j ∈ r.columnIndices := by
      rw [Range.mem_columnIndices]
      have := r.left_le
      unfold Range.columns at hj
      omega
    have hcount : r.columnIndices.count (r.left + j) = 1 :=
      List.count_eq_one_of_mem List.nodup_range' hmem
    calc
      _ = r.columnIndices.filter fun c => decide (c = r.left + j) :=
        List.filter_congr fun c _ => decide_eq_decide.2 eq_comm
      _ = [r.left + j] := by rw [List.filter_eq, hcount, List.replicate_one]
  have hcolumn : (r.column j hj).columnIndices = [r.left + j] := by
    rw [Range.columnIndices, Range.columns, Range.column, Nat.sub_self]
    rfl
  simp only [cellsToRead, Bool.true_or, List.filter_true, Option.all_some, Bool.and_true, hcolumns,
    Range.cells, hcolumn]
  rfl

example : cellsToRead Workbook.new.host 0 { top := 0, left := 1, bottom := 1, right := 3 } true
    (some 2) = [(0, 3), (1, 3)] := by decide +kernel

/-! ## Answers -/

section

variable {h : Host} {base i : Nat} {r : Reference}

/-- Parts of a range of constants are such ranges. -/
theorem Constants.within {range part : Range} (hr : Constants h i range)
    (hpart : part.Within range) : Constants h i part where
  bottom_lt := hpart.2.1.trans_lt hr.bottom_lt
  right_lt := hpart.2.2.2.trans_lt hr.right_lt
  content row column hcell := hr.content row column (hpart.contains hcell)

/-- A range of a workbook is constant when no cell stored on its sheet holds a formula. -/
theorem Constants.of_cells {b : Workbook} {i : Nat} {w : Grid.Worksheet} {range : Range}
    (hw : b.sheets[i]? = some w) (hbottom : range.bottom < w.rows)
    (hright : range.right < w.columns)
    (hcells : ∀ entry ∈ w.cells, ∀ text, entry.2.content ≠ .formula text) :
    Constants b.host i range := by
  refine ⟨?_, ?_, ?_⟩
  · simpa [Workbook.host, hw] using hbottom
  · simpa [Workbook.host, hw] using hright
  · intro row column _ text htext
    have hne : Content.formula text ≠ .empty := by
      intro h
      cases h
    obtain ⟨w', cell, hw', hmem, hcell⟩ := exists_cell_of_content htext hne
    cases hw.symm.trans hw'
    exact hcells _ hmem text hcell

/-- A formula is answered with the values of cells, and a cell without a formula has what it holds
as its value. -/
theorem exists_answers_cells (registry : Formula.Registry) (hi : sheetOf h base r = .ok i) :
    ∃ value : Nat → Nat → Value,
      (∀ row column, (∀ text, h.content i row column ≠ .formula text) →
        value row column = .ofContent (h.content i row column)) ∧
      (answers registry h base).cell r = .ok (value r.range.top r.range.left) ∧
      (r.range.bottom < h.rows i → r.range.right < h.columns i → ∀ hidden,
        (answers registry h base).cells r hidden =
          .ok ((cellsToRead h i r.range hidden none).map fun cell =>
            (value cell.1 cell.2).raw)) := by
  obtain ⟨n, hn⟩ := Nat.exists_eq_succ_of_ne_zero (Nat.ne_zero_of_lt (h.ncard_keysFrom_lt base))
  let s : Surroundings := ⟨registry, {}, h⟩
  have hanswers : answers registry h base = answering h (entering s (answersAt s n) []) base := by
    rw [answers, hn]
    rfl
  have henter : entering s (answersAt s n) [] i r.range =
      .ok (s.value (answersAt s n [keyOf h i r.range]) i) := if_neg (by simp)
  refine ⟨s.value (answersAt s n [keyOf h i r.range]) i,
    fun row column hcell => value_content hcell, ?_, fun hbottom hright hidden => ?_⟩
  · rw [hanswers, answering_cell_eq_ok]
    exact ⟨i, _, hi, henter, rfl⟩
  · have hinside : ¬ (h.rows i ≤ r.range.bottom || h.columns i ≤ r.range.right) = true := by
      simp only [Bool.or_eq_true, decide_eq_true_eq]
      omega
    rw [hanswers]
    simp only [answering, hi]
    change (if _ then _ else _) = _
    rw [if_neg hinside, henter]
    rfl

/-- A range that does not lie on its sheet is refused. -/
theorem answers_cells_outside (registry : Formula.Registry) (hi : sheetOf h base r = .ok i)
    (hout : h.rows i ≤ r.range.bottom ∨ h.columns i ≤ r.range.right) (hidden : Bool) :
    (answers registry h base).cells r hidden =
      .error (.indexOutOfRange (.outsideSheet r.text)) := by
  obtain ⟨n, hn⟩ := Nat.exists_eq_succ_of_ne_zero (Nat.ne_zero_of_lt (h.ncard_keysFrom_lt base))
  rw [answers, hn]
  simp only [answersAt, answering, hi]
  exact if_pos (by simpa using hout)

/-- A cell without a formula is answered with what it holds. -/
theorem answers_cell (registry : Formula.Registry) (hi : sheetOf h base r = .ok i)
    (hcell : ∀ text, h.content i r.range.top r.range.left ≠ .formula text) :
    (answers registry h base).cell r = .ok (.ofContent (h.content i r.range.top r.range.left)) := by
  obtain ⟨value, hvalue, hfirst, -⟩ := exists_answers_cells registry hi
  rw [hfirst, hvalue _ _ hcell]

/-- A range of constants is answered with what its cells hold. -/
theorem Constants.answers_cells (hr : Constants h i r.range) (registry : Formula.Registry)
    (hi : sheetOf h base r = .ok i) (hidden : Bool) :
    (answers registry h base).cells r hidden =
      .ok (valuesOf h i (cellsToRead h i r.range hidden none)) := by
  obtain ⟨value, hvalue, -, hall⟩ := exists_answers_cells registry hi
  rw [hall hr.bottom_lt hr.right_lt hidden]
  refine congrArg Except.ok (List.map_congr_left fun cell hcell => ?_)
  rw [hvalue _ _ (hr.content _ _ (mem_cellsToRead hcell)), raw_ofContent]

/-- A part of a range of constants is answered with what all its cells hold, row by row. -/
theorem Constants.answers_part (hr : Constants h i r.range) (registry : Formula.Registry)
    (hi : sheetOf h base r = .ok i) {part : Range} (hpart : part.Within r.range) :
    (answers registry h base).cells (r.withRange part) true = .ok (valuesOf h i part.cells) := by
  rw [Constants.answers_cells (r := r.withRange part) (hr.within hpart) registry hi,
    cellsToRead_all, Reference.withRange]

/-- A cell of a range of constants, counted from the first one, is answered with its value. -/
theorem Constants.answers_cellOf (hr : Constants h i r.range) (registry : Formula.Registry)
    (hi : sheetOf h base r = .ok i) {p j : Nat} (hp : p < r.range.rows) (hj : j < r.range.columns) :
    (answers registry h base).cell (r.withRange ((r.range.row p hp).column j hj)) =
      .ok (constantAt h i r.range p j) := by
  have hpart := (Range.column_within (r.range.row p hp) j hj).trans (r.range.row_within p hp)
  exact answers_cell (r := r.withRange ((r.range.row p hp).column j hj)) registry hi
    ((hr.within hpart).content _ _ (Range.contains_first _))

/-- The values of a row, counted from the first cell of the range. -/
theorem valuesOf_row (h : Host) (i : Nat) (range : Range) (p : Nat) (hp : p < range.rows) :
    valuesOf h i (range.row p hp).cells =
      (List.range range.columns).map fun j => constantAt h i range p j := by
  rw [Range.cells_row, valuesOf, List.map_map]
  rfl

/-- The values of a column, counted from the first cell of the range. -/
theorem valuesOf_column (h : Host) (i : Nat) (range : Range) (j : Nat) (hj : j < range.columns) :
    valuesOf h i (range.column j hj).cells =
      (List.range range.rows).map fun p => constantAt h i range p j := by
  rw [Range.cells_column, valuesOf, List.map_map]
  rfl

end

/-! ## Engines -/

section

variable {s : Surroundings} {readers : Nat → Reader} {i : Nat}

/-- Cells without formulas are read without computing anything. -/
theorem valuesAt_constants {cells : List (Nat × Nat)}
    (hcells : ∀ cell ∈ cells, ∀ text, s.host.content i cell.1 cell.2 ≠ .formula text) (m : Memory) :
    valuesAt s readers i cells m = (valuesOf s.host i cells, m) := by
  induction cells with
  | nil => rfl
  | cons cell cells ih =>
    have hfirst : valueAt s readers i cell.1 cell.2 m =
        (.ofContent (s.host.content i cell.1 cell.2), m) := by
      unfold valueAt
      split
      next text htext => exact absurd htext (hcells cell List.mem_cons_self text)
      next => rfl
    rw [valuesAt_cons, hfirst, ih fun cell hcell => hcells cell (List.mem_cons_of_mem _ hcell),
      raw_ofContent]
    rfl

/-- A range of constants, or one of its columns, is read off the grid while nothing is held. -/
theorem Constants.readCells {base : Nat} {r : Reference} (hr : Constants s.host i r.range)
    (hi : sheetOf s.host base r = .ok i) (hidden : Bool) (column : Option Nat) {m : Memory}
    (hm : m.held = []) :
    (readCells s readers base r hidden column m).1 =
      .ok (valuesOf s.host i (cellsToRead s.host i r.range hidden column)) := by
  have hinside : ¬ (s.host.rows i ≤ r.range.bottom || s.host.columns i ≤ r.range.right) = true := by
    have := hr.bottom_lt
    have := hr.right_lt
    simp only [Bool.or_eq_true, decide_eq_true_eq]
    omega
  have hfree : m.hold? (keyOf s.host i r.range) =
      some { m with held := [keyOf s.host i r.range] } := by
    rw [Memory.hold?, hm]
    rfl
  simp only [Engine.readCells, hi, if_neg hinside, holding, hfree]
  rw [valuesAt_constants fun cell hcell => hr.content _ _ (mem_cellsToRead hcell)]

end

/-- An engine reads a range of constants, or one of its columns, off the grid. -/
theorem AtRest.rangeValues_constants {e : Engine} (he : e.AtRest) {h : Host} {base i : Nat}
    {r : Reference} (hi : sheetOf h base r = .ok i) (hr : Constants h i r.range) (hidden : Bool)
    (column : Option Nat) :
    (e.rangeValues h base r hidden column).1 =
      .ok (valuesOf h i (cellsToRead h i r.range hidden column)) :=
  Constants.readCells (s := e.surroundings h) hr hi hidden column he.held

end Spreadsheet.Engine
