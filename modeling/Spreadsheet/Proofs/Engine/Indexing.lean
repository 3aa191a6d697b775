import Spreadsheet.Proofs.Engine.Constants
import Spreadsheet.Proofs.Engine.Expressions
import Spreadsheet.Proofs.Functions.Lookups
import Spreadsheet.Proofs.Grid.Storage

/-!
# Parts of a range by index

`INDEX` narrows a reference to a cell, a row or a column.  In a range of
constants the result agrees with the list of all values of the range, row by
row: a cell is an entry of that list, a row is a block of it, and a column is
what the range gives when it is read in that column only.  A cell can also be
taken in two steps, first its row and then its column or the other way round.
An index outside the range is refused (`Reached.index_flattened`).

The indices are any expressions that are computed to numbers, and they count by
their whole parts.  A range that takes all rows of the largest sheet is the only
one in which a number beyond 64 bits is taken for the last index and not refused
(`index_beyond_last`).
-/

namespace Spreadsheet.Engine

open Spreadsheet.Decimal (truncate whole?)
open Spreadsheet.Evaluation
open Spreadsheet.Evaluation.Program
open Spreadsheet.Formula (Error Expr Function Reference)
open Spreadsheet.Functions
open Spreadsheet.Grid (Range Workbook indexLimit)

/-! ## Flattened values -/

section

variable {p j : Nat}

/-- The place of a cell in the values of a range. -/
theorem getElem?_valuesOf (h : Host) (i : Nat) {range : Range} (hp : p < range.rows)
    (hj : j < range.columns) :
    (valuesOf h i range.cells)[p * range.columns + j]? = some (constantAt h i range p j) := by
  have hlt : p * range.columns + j < range.rows * range.columns :=
    calc
      p * range.columns + j < (p + 1) * range.columns := by rw [Nat.succ_mul]; omega
      _ ≤ range.rows * range.columns := Nat.mul_le_mul_right _ hp
  rw [valuesOf, Range.cells_eq, List.map_map, List.getElem?_map, List.getElem?_range hlt]
  simp only [Option.map_some, Function.comp_apply, Range.cell_mul_add _ _ hj, constantAt]

theorem length_valuesOf (h : Host) (i : Nat) (range : Range) :
    (valuesOf h i range.cells).length = range.rows * range.columns := by
  rw [valuesOf, List.length_map, Range.length_cells]

/-- The values of a row are a block of the values of the range. -/
theorem valuesOf_row_eq (h : Host) (i : Nat) {range : Range} (hp : p < range.rows) :
    valuesOf h i (range.row p hp).cells =
      ((valuesOf h i range.cells).drop (p * range.columns)).take range.columns := by
  rw [valuesOf_row]
  ext k : 1
  rw [List.getElem?_take, List.getElem?_drop, List.getElem?_map]
  split
  next hk => rw [List.getElem?_range hk, getElem?_valuesOf h i hp hk, Option.map_some]
  next hk => rw [List.getElem?_eq_none (by simpa using hk), Option.map_none]

end

/-! ## Expressions -/

/-- The values that an engine reads where a function takes all values of an expression. -/
def flattened (e : Engine) (h : Host) (o : Options) (ex : Expr) : Except Error (List Value) :=
  (e.runProgram h (o.sheet.getD h.selected)
    ((argumentOf ((e.surroundings h).context o) ex).values true)).1

/-- `INDEX` agrees with the list of all values of a range. -/
structure IndexesFlattened (e : Engine) (h : Host) (o : Options) (f : Function) (er : Expr)
    (r : Reference) (flat : List Value) : Prop where
  /-- There is a value for every cell. -/
  length : flat.length = r.range.rows * r.range.columns
  /-- A cell is an entry of the list, whether it is taken in one step, from its row or from its
  column. -/
  entry : ∀ {ei ej : Expr} {i j : Nat}, e.IsWhole h o ei i → e.IsWhole h o ej j →
    1 ≤ i → i ≤ r.range.rows → 1 ≤ j → j ≤ r.range.columns →
    ∃ v, flat[(i - 1) * r.range.columns + (j - 1)]? = some v ∧
      e.Evaluates h o (.call f [er, ei, ej]) (.ok v) ∧
      ∀ all first, e.IsWhole h o all 0 → e.IsWhole h o first 1 →
        e.Evaluates h o (.call f [.call f [er, ei, all], first, ej]) (.ok v) ∧
        e.Evaluates h o (.call f [.call f [er, all, ej], ei, first]) (.ok v)
  /-- A row is a block of the list. -/
  row : ∀ {ei all : Expr} {i : Nat}, e.IsWhole h o ei i → e.IsWhole h o all 0 →
    1 ≤ i → i ≤ r.range.rows →
    e.flattened h o (.call f [er, ei, all]) =
      .ok ((flat.drop ((i - 1) * r.range.columns)).take r.range.columns)
  /-- A column is what is read of the range in that column. -/
  column : ∀ {all ej : Expr} {j : Nat}, e.IsWhole h o all 0 → e.IsWhole h o ej j →
    1 ≤ j → j ≤ r.range.columns →
    ∃ values, e.flattened h o (.call f [er, all, ej]) = .ok values ∧
      (e.rangeValues h (o.sheet.getD h.selected) r true (some (j - 1))).1 = .ok values
  /-- A row index outside the range is refused, whatever follows it. -/
  row_outside : ∀ {ei : Expr} {rest : List Expr} {x : Float}, e.numberOf h o ei = .ok x →
    Outside x r.range.rows → x < 18446744073709551616.0 ∨ r.range.rows + 1 < indexLimit →
    e.Evaluates h o (.call f (er :: ei :: rest))
      (.error (.indexOutOfRange (.outsideRange "INDEX row" (truncate x) r.range.rows)))
  /-- A column index outside the range is refused behind a row index that is not. -/
  column_outside : ∀ {ei ej : Expr} {i : Nat} {y : Float}, e.IsWhole h o ei i →
    i ≤ r.range.rows → e.numberOf h o ej = .ok y →
    Outside y r.range.columns → y < 18446744073709551616.0 ∨ r.range.columns + 1 < indexLimit →
    e.Evaluates h o (.call f [er, ei, ej])
      (.error (.indexOutOfRange (.outsideRange "INDEX column" (truncate y) r.range.columns)))

/-! ## Parts -/

section

variable {q : Answers} {a b c : Argument} {r : Reference} {p j : Nat}

theorem values_under {v : Program Value} (hv : v.under q = .ok (.reference r)) (hidden : Bool) :
    ((Argument.computed v).values hidden).under q = q.cells r hidden := by
  simp only [Argument.values, Argument.operand, bind_eq, under_bind, hv]
  exact under_cells q r hidden

theorem index_cell_under (hrows : r.range.rows < indexLimit)
    (hcolumns : r.range.columns < indexLimit) (hr : (a.reference "INDEX").under q = .ok r)
    (hb : WholeUnder q b (p + 1 : Nat)) (hc : WholeUnder q c (j + 1 : Nat))
    (hp : p < r.range.rows) (hj : j < r.range.columns) :
    (index [a, b, c]).under q =
      .ok (.reference (r.withRange ((r.range.row p hp).column j hj))) := by
  obtain ⟨x, hx, hwhole⟩ := hb
  obtain ⟨y, hy, hwhole'⟩ := hc
  exact index_narrowed hr hx (indexWithin_succ hwhole hp (Nat.le_of_lt_succ hrows)) hy
    (indexWithin_succ hwhole' hj (Nat.le_of_lt_succ hcolumns))

theorem index_row_under (hrows : r.range.rows < indexLimit)
    (hr : (a.reference "INDEX").under q = .ok r) (hb : WholeUnder q b (p + 1 : Nat))
    (hc : WholeUnder q c 0) (hp : p < r.range.rows) :
    (index [a, b, c]).under q = .ok (.reference (r.withRange (r.range.row p hp))) := by
  obtain ⟨x, hx, hwhole⟩ := hb
  obtain ⟨y, hy, hwhole'⟩ := hc
  exact index_narrowed hr hx (indexWithin_succ hwhole hp (Nat.le_of_lt_succ hrows)) hy
    (indexWithin_zero hwhole' r.range.columns_pos)

theorem index_column_under (hcolumns : r.range.columns < indexLimit)
    (hr : (a.reference "INDEX").under q = .ok r) (hb : WholeUnder q b 0)
    (hc : WholeUnder q c (j + 1 : Nat)) (hj : j < r.range.columns) :
    (index [a, b, c]).under q = .ok (.reference (r.withRange (r.range.column j hj))) := by
  obtain ⟨x, hx, hwhole⟩ := hb
  obtain ⟨y, hy, hwhole'⟩ := hc
  exact index_narrowed hr hx (indexWithin_zero hwhole (Nat.succ_pos _)) hy
    (indexWithin_succ hwhole' hj (Nat.le_of_lt_succ hcolumns))

/-- A cell is reached from its row. -/
theorem index_cell_of_row_under (hcolumns : r.range.columns < indexLimit) (hp : p < r.range.rows)
    (hr : (a.reference "INDEX").under q = .ok (r.withRange (r.range.row p hp)))
    (hb : WholeUnder q b 1) (hc : WholeUnder q c (j + 1 : Nat)) (hj : j < r.range.columns) :
    (index [a, b, c]).under q =
      .ok (.reference (r.withRange ((r.range.row p hp).column j hj))) := by
  have hone : (r.range.row p hp).rows = 1 := congrArg (· + 1) (Nat.sub_self _)
  exact index_cell_under (r := r.withRange (r.range.row p hp)) (p := 0) (hone ▸ by decide) hcolumns
    hr hb hc (hone ▸ Nat.one_pos) hj

/-- A cell is reached from its column. -/
theorem index_cell_of_column_under (hrows : r.range.rows < indexLimit) (hj : j < r.range.columns)
    (hr : (a.reference "INDEX").under q = .ok (r.withRange (r.range.column j hj)))
    (hb : WholeUnder q b (p + 1 : Nat)) (hc : WholeUnder q c 1) (hp : p < r.range.rows) :
    (index [a, b, c]).under q =
      .ok (.reference (r.withRange ((r.range.row p hp).column j hj))) := by
  have hone : (r.range.column j hj).columns = 1 := congrArg (· + 1) (Nat.sub_self _)
  exact index_cell_under (r := r.withRange (r.range.column j hj)) (j := 0) hrows
    (hone ▸ by decide) hr hb hc hp (hone ▸ Nat.one_pos)

end

/-! ## Engines -/

/-- An expression gives a range of constants with less than `2 ^ 64` rows and columns. -/
structure Indexable (e : Engine) (h : Host) (o : Options) (er : Expr) (r : Reference)
    (sheet : Nat) : Prop where
  /-- The expression is a range for `INDEX`. -/
  reference : ((argumentOf ((e.surroundings h).context o) er).reference "INDEX").under
    (answers e.registry h (o.sheet.getD h.selected)) = .ok r
  /-- The range lies on a sheet. -/
  sheetOf : sheetOf h (o.sheet.getD h.selected) r = .ok sheet
  /-- The cells are constants. -/
  constants : Constants h sheet r.range
  /-- 64 bits can count the rows. -/
  rows_lt : r.range.rows < indexLimit
  /-- 64 bits can count the columns. -/
  columns_lt : r.range.columns < indexLimit

section

variable {e : Engine} {h : Host} {f : Function} {o : Options} {er ei ej all first : Expr}
  {es rest : List Expr} {r : Reference} {sheet p j : Nat}

theorem argumentOf_index (hf : f.body = .builtin .index) (c : Context) (e₁ e₂ e₃ : Expr) :
    argumentOf c (.call f [e₁, e₂, e₃]) =
      .computed (index [argumentOf c e₁, argumentOf c e₂, argumentOf c e₃]) :=
  argumentOf_call hf c [e₁, e₂, e₃]

namespace AtRest

variable (he : e.AtRest) (hh : h.KnowsNoNames) (hf : f.body = .builtin .index)
include he hh hf

theorem flattened_index {part : Range}
    (hindex : (index [argumentOf ((e.surroundings h).context o) er,
      argumentOf ((e.surroundings h).context o) ei,
      argumentOf ((e.surroundings h).context o) ej]).under
        (answers e.registry h (o.sheet.getD h.selected)) = .ok (.reference (r.withRange part)))
    (hr : Indexable e h o er r sheet) (hpart : part.Within r.range) :
    e.flattened h o (.call f [er, ei, ej]) = .ok (valuesOf h sheet part.cells) := by
  rw [flattened, he.runProgram hh, argumentOf_call hf]
  exact (values_under hindex true).trans (hr.constants.answers_part e.registry hr.sheetOf hpart)

variable (ho : o.format = none) (hr : Indexable e h o er r sheet)
include ho hr

/-- A reference to a cell of the range evaluates to what the cell holds. -/
theorem evaluates_cell (hp : p < r.range.rows) (hj : j < r.range.columns)
    (hindex : (index (argumentsOf ((e.surroundings h).context o) es)).under
      (answers e.registry h (o.sheet.getD h.selected)) =
      .ok (.reference (r.withRange ((r.range.row p hp).column j hj)))) :
    e.Evaluates h o (.call f es) (.ok (constantAt h sheet r.range p j)) := by
  have hresult := he.evaluates_call hh hf ho hindex
  rwa [ok_bind, settledValue, hr.constants.answers_cellOf e.registry hr.sheetOf hp hj] at hresult

/-- Two indices give a cell of the range. -/
theorem evaluates_entry (hi : e.IsWhole h o ei (p + 1 : Nat)) (hp : p < r.range.rows)
    (hc : e.IsWhole h o ej (j + 1 : Nat)) (hj : j < r.range.columns) :
    e.Evaluates h o (.call f [er, ei, ej]) (.ok (constantAt h sheet r.range p j)) := by
  rw [he.isWhole_iff hh] at hi hc
  exact he.evaluates_cell hh hf ho hr hp hj
    (index_cell_under hr.rows_lt hr.columns_lt hr.reference hi hc hp hj)

/-- A cell is taken from its row. -/
theorem evaluates_entry_of_row (hi : e.IsWhole h o ei (p + 1 : Nat)) (hp : p < r.range.rows)
    (hc : e.IsWhole h o ej (j + 1 : Nat)) (hj : j < r.range.columns)
    (hall : e.IsWhole h o all 0) (hfirst : e.IsWhole h o first 1) :
    e.Evaluates h o (.call f [.call f [er, ei, all], first, ej])
      (.ok (constantAt h sheet r.range p j)) := by
  rw [he.isWhole_iff hh] at hi hc hall hfirst
  have hrow := reference_under (index_row_under hr.rows_lt hr.reference hi hall hp) "INDEX"
  rw [← argumentOf_index hf] at hrow
  exact he.evaluates_cell hh hf ho hr hp hj
    (index_cell_of_row_under hr.columns_lt hp hrow hfirst hc hj)

/-- A cell is taken from its column. -/
theorem evaluates_entry_of_column (hi : e.IsWhole h o ei (p + 1 : Nat)) (hp : p < r.range.rows)
    (hc : e.IsWhole h o ej (j + 1 : Nat)) (hj : j < r.range.columns)
    (hall : e.IsWhole h o all 0) (hfirst : e.IsWhole h o first 1) :
    e.Evaluates h o (.call f [.call f [er, all, ej], ei, first])
      (.ok (constantAt h sheet r.range p j)) := by
  rw [he.isWhole_iff hh] at hi hc hall hfirst
  have hcolumn := reference_under (index_column_under hr.columns_lt hr.reference hall hc hj) "INDEX"
  rw [← argumentOf_index hf] at hcolumn
  exact he.evaluates_cell hh hf ho hr hp hj
    (index_cell_of_column_under hr.rows_lt hj hcolumn hi hfirst hp)

/-- A row index outside the range is refused. -/
theorem evaluates_row_outside {x : Float} (hx : e.numberOf h o ei = .ok x)
    (hout : Outside x r.range.rows)
    (hreach : x < 18446744073709551616.0 ∨ r.range.rows + 1 < indexLimit) :
    e.Evaluates h o (.call f (er :: ei :: rest))
      (.error (.indexOutOfRange (.outsideRange "INDEX row" (truncate x) r.range.rows))) := by
  rw [numberOf, he.runProgram hh] at hx
  have hindex : (index (argumentsOf ((e.surroundings h).context o) (er :: ei :: rest))).under
      (answers e.registry h (o.sheet.getD h.selected)) =
      .error (.indexOutOfRange (.outsideRange "INDEX row" (truncate x) r.range.rows)) := by
    rw [argumentsOf, argumentsOf, index_under hr.reference, hx, ok_bind,
      indexWithin_outside hout (hreach.imp_right Nat.lt_of_succ_lt_succ), error_bind]
  exact he.evaluates_call hh hf ho hindex

/-- A column index outside the range is refused behind a row index that is not. -/
theorem evaluates_column_outside {i : Nat} {y : Float} (hi : e.IsWhole h o ei i)
    (hle : i ≤ r.range.rows) (hy : e.numberOf h o ej = .ok y) (hout : Outside y r.range.columns)
    (hreach : y < 18446744073709551616.0 ∨ r.range.columns + 1 < indexLimit) :
    e.Evaluates h o (.call f [er, ei, ej])
      (.error (.indexOutOfRange (.outsideRange "INDEX column" (truncate y) r.range.columns))) := by
  rw [he.isWhole_iff hh] at hi
  obtain ⟨x, hx, hwhole⟩ := hi
  rw [numberOf, he.runProgram hh] at hy
  obtain ⟨row, hrow⟩ := exists_indexWithin "INDEX row" hwhole hle (Nat.succ_pos _)
    (Nat.le_of_lt_succ hr.rows_lt)
  have hthird : (optionalNumber (argumentsOf ((e.surroundings h).context o) [er, ei, ej]) 2
      0.0).under (answers e.registry h (o.sheet.getD h.selected)) = .ok y := hy
  have hindex : (index (argumentsOf ((e.surroundings h).context o) [er, ei, ej])).under
      (answers e.registry h (o.sheet.getD h.selected)) =
      .error (.indexOutOfRange (.outsideRange "INDEX column" (truncate y) r.range.columns)) := by
    simp only [argumentsOf] at hthird ⊢
    rw [index_under_of_column hr.reference hthird, hx, ok_bind, hrow, ok_bind,
      indexWithin_outside hout (hreach.imp_right Nat.lt_of_succ_lt_succ), error_bind]
  exact he.evaluates_call hh hf ho hindex

/-- All that `INDEX` gives for a range of constants is found in the list of its values. -/
theorem indexesFlattened :
    e.IndexesFlattened h o f er r (valuesOf h sheet r.range.cells) where
  length := length_valuesOf h sheet r.range
  entry hi hc hipos hile hjpos hjle := by
    obtain ⟨p, rfl⟩ := Nat.exists_eq_add_of_le' hipos
    obtain ⟨j, rfl⟩ := Nat.exists_eq_add_of_le' hjpos
    refine ⟨_, getElem?_valuesOf h sheet hile hjle, he.evaluates_entry hh hf ho hr hi hile hc hjle,
      fun all first hall hfirst => ⟨?_, ?_⟩⟩
    · exact he.evaluates_entry_of_row hh hf ho hr hi hile hc hjle hall hfirst
    · exact he.evaluates_entry_of_column hh hf ho hr hi hile hc hjle hall hfirst
  row hi hall hpos hle := by
    obtain ⟨p, rfl⟩ := Nat.exists_eq_add_of_le' hpos
    rw [he.isWhole_iff hh] at hi hall
    rw [he.flattened_index hh hf (index_row_under hr.rows_lt hr.reference hi hall hle) hr
      (r.range.row_within p hle), valuesOf_row_eq h sheet hle, Nat.add_sub_cancel]
  column hall hc hpos hle := by
    obtain ⟨j, rfl⟩ := Nat.exists_eq_add_of_le' hpos
    rw [he.isWhole_iff hh] at hall hc
    refine ⟨valuesOf h sheet (r.range.column j hle).cells, ?_, ?_⟩
    · exact he.flattened_index hh hf (index_column_under hr.columns_lt hr.reference hall hc hle) hr
        (r.range.column_within j hle)
    · rw [he.rangeValues_constants hr.sheetOf hr.constants, Nat.add_sub_cancel,
        cellsToRead_some h sheet r.range j hle]
  row_outside hx hout hreach := he.evaluates_row_outside hh hf ho hr hx hout hreach
  column_outside hi hle hy hout hreach :=
    he.evaluates_column_outside hh hf ho hr hi hle hy hout hreach

end AtRest

end

/-- In a range of constants `INDEX` agrees with the list of all values of the range. -/
theorem Reached.index_flattened {settings : Settings} {fs : List Function} {e : Engine}
    (he : Reached settings fs e) {h : Host} (hh : h.KnowsNoNames) {f : Function}
    (hf : f.body = .builtin .index) {o : Options} (ho : o.format = none) {er : Expr}
    {r : Reference}
    (hr : (e.runProgram h (o.sheet.getD h.selected)
      ((argumentOf ((e.surroundings h).context o) er).reference "INDEX")).1 = .ok r)
    {sheet : Nat} (hsheet : sheetOf h (o.sheet.getD h.selected) r = .ok sheet)
    (hheight : h.rows sheet < indexLimit) (hwidth : h.columns sheet < indexLimit)
    (hconstants : Constants h sheet r.range) :
    ∃ flat, (e.rangeValues h (o.sheet.getD h.selected) r true none).1 = .ok flat ∧
      e.IndexesFlattened h o f er r flat := by
  have hrest := he.atRest.1
  rw [hrest.runProgram hh] at hr
  have hrows : r.range.rows < indexLimit := by
    have := hconstants.bottom_lt
    unfold Range.rows
    omega
  have hcolumns : r.range.columns < indexLimit := by
    have := hconstants.right_lt
    unfold Range.columns
    omega
  refine ⟨valuesOf h sheet r.range.cells, ?_,
    hrest.indexesFlattened hh hf ho ⟨hr, hsheet, hconstants, hrows, hcolumns⟩⟩
  rw [hrest.rangeValues_constants hsheet hconstants, cellsToRead_all]

/-- Numbers with letters beside them. -/
def lettered : Workbook where
  sheets := [
    { name := "a"
      cells := [
        ((0, 0), { content := .number 1.0 }), ((0, 1), { content := .text "a" }),
        ((1, 0), { content := .number 2.0 }), ((1, 1), { content := .text "b" }),
        ((2, 0), { content := .number 3.0 })] }]

/-- A cell is taken from its column, a fraction is dropped, and a third column is refused. -/
theorem Reached.index_flattened_lettered :
    let e := Engine.new {}
    let f := Formula.Builtin.function .index
    let r : Reference := ⟨{ top := 0, left := 0, bottom := 2, right := 1 }, none⟩
    let result (text : String) := (e.tryEvaluate lettered.host text {}).1
    Reached {} [] e ∧
      (∃ flat, (e.rangeValues lettered.host 0 r true none).1 = .ok flat ∧
        e.IndexesFlattened lettered.host {} f (.reference r) r flat) ∧
      e.IsWhole lettered.host {} (.literal (.number 2.5)) 2 ∧
      e.Evaluates lettered.host {} (.call f [.reference r, .literal (.number 2.5),
        .literal (.number 2.0)]) (.ok (.text "b")) ∧
      result "=INDEX(INDEX(A1:B3,0,2),2.5,1)" = .ok (.text "b") ∧
      result "=INDEX(A1:B3,1,3)" =
        .error (.indexOutOfRange (.outsideRange "INDEX column" 3.0 2)) := by
  intro e f r result
  have he : Reached {} [] e := .new
  have hconstants : Constants lettered.host 0 r.range :=
    .of_cells rfl (by decide) (by decide) (by simp)
  have hr : (e.runProgram lettered.host 0
      ((argumentOf ((e.surroundings lettered.host).context {}) (.reference r)).reference
        "INDEX")).1 = .ok r := rfl
  have hflat := Reached.index_flattened he lettered.host_knowsNoNames (f := f) rfl (o := {}) rfl
    hr rfl (by decide) (by decide) hconstants
  have htwo : e.IsWhole lettered.host {} (.literal (.number 2.0)) 2 :=
    ⟨2.0, rfl, by decide +kernel⟩
  have hhalf : e.IsWhole lettered.host {} (.literal (.number 2.5)) 2 :=
    ⟨2.5, rfl, by decide +kernel⟩
  obtain ⟨flat, hvalues, hindexes⟩ := id hflat
  obtain ⟨v, hv, hresult, -⟩ := hindexes.entry (i := 2) (j := 2) hhalf htwo (by decide) (by decide)
    (by decide) (by decide)
  have hlist : (e.rangeValues lettered.host 0 r true none).1 =
      .ok [.number 1.0, .text "a", .number 2.0, .text "b", .number 3.0, .empty] := by
    decide +kernel
  obtain rfl : flat = _ := Except.ok.inj (hvalues.symm.trans hlist)
  have hb : v = .text "b" := (Option.some.inj hv).symm
  exact ⟨he, hflat, hhalf, hb ▸ hresult, by decide +kernel, by decide +kernel⟩

/-- A sheet with as many rows as 64 bits count and one column. -/
def tallest : Workbook where
  sheets := [{ name := "a", rows := 18446744073709551615, columns := 1, cells := [] }]

/-- In a range of all these rows a greater number is taken for the last index. -/
theorem index_beyond_last :
    let text := "=INDEX(A1:A18446744073709551615,18446744073709551616,1)"
    let r : Range := { top := 0, left := 0, bottom := 18446744073709551614, right := 0 }
    Constants tallest.host 0 r ∧ Outside 18446744073709551616.0 r.rows ∧
      ((Engine.new {}).tryEvaluate tallest.host text {}).1 = .ok .empty := by
  intro text r
  exact ⟨.of_cells rfl (by decide) (by decide) (by simp),
    .inr ⟨18446744073709551616, by decide +kernel, .inr (by decide)⟩, by decide +kernel⟩

end Spreadsheet.Engine
