import Spreadsheet.Proofs.Engine.Constants
import Spreadsheet.Proofs.Engine.Expressions
import Spreadsheet.Proofs.Engine.RangeValues
import Spreadsheet.Proofs.Functions.Aggregates
import Spreadsheet.Proofs.Grid.Storage

/-!
# Cells out of sight

With a code above a hundred `SUBTOTAL` leaves out the cells of hidden rows and
columns.  It does not only drop their values: they are not asked for, so that they
may hold formulas that fail, or that lead back to the range.

Where the visible cells of the ranges are constants, the result is the aggregate
of what they hold, row by row (`AtRest.tryEvaluate_subtotal`,
`ConstantsInSight.answers_visible`).  So two hosts that are the same in sight give the
same (`Reached.subtotal_hidden`).
-/

namespace Spreadsheet.Engine

open Spreadsheet.Evaluation
open Spreadsheet.Evaluation.Program
open Spreadsheet.Formula (Builtin Error Expr Function Reference)
open Spreadsheet.Functions
open Spreadsheet.Grid (Content Range Workbook Worksheet)
open Spreadsheet.Value (Aggregate)

/-! ## Visible cells -/

/-- Neither the row nor the column of a cell is hidden. -/
def isVisible (h : Host) (i : Nat) (cell : Nat × Nat) : Bool :=
  !(h.isRowHidden i cell.1 || h.isColumnHidden i cell.2)

/-- Two hosts differ at most in what the cells of hidden rows and columns hold. -/
structure SameInSight (h h' : Host) : Prop where
  /-- Nothing but contents differs. -/
  rest : h' = { h with content := h'.content }
  /-- Visible cells hold the same. -/
  content : ∀ i cell, isVisible h i cell = true →
    h'.content i cell.1 cell.2 = h.content i cell.1 cell.2

/-- The cells of a range lie on its sheet, and the visible ones hold no formulas. -/
structure ConstantsInSight (h : Host) (i : Nat) (range : Range) : Prop where
  /-- The last row is on the sheet. -/
  bottom_lt : range.bottom < h.rows i
  /-- The last column is on the sheet. -/
  right_lt : range.right < h.columns i
  /-- No visible cell holds a formula. -/
  content : ∀ cell ∈ range.cells, isVisible h i cell = true →
    ∀ text, h.content i cell.1 cell.2 ≠ .formula text

/-- What the visible cells of a range hold, row by row. -/
def visibleValues (h : Host) (i : Nat) (range : Range) : List Value :=
  valuesOf h i (range.cells.filter (isVisible h i))

section

variable {h h' : Host} {i : Nat} {range : Range}

/-- Without the hidden cells those are asked for that are visible. -/
theorem cellsToRead_visible (h : Host) (i : Nat) (range : Range) :
    cellsToRead h i range false none = range.cells.filter (isVisible h i) := by
  rw [cellsToRead_eq]
  rfl

namespace ConstantsInSight

/-- A range is answered with what its visible cells hold. -/
theorem answers_visible {base : Nat} {r : Reference} (hr : ConstantsInSight h i r.range)
    (registry : Formula.Registry) (hi : sheetOf h base r = .ok i) :
    (answers registry h base).cells r false = .ok (visibleValues h i r.range) := by
  obtain ⟨value, hvalue, -, hall⟩ := exists_answers_cells registry hi
  rw [hall hr.bottom_lt hr.right_lt false, cellsToRead_visible]
  refine congrArg Except.ok (List.map_congr_left fun cell hcell => ?_)
  obtain ⟨hmem, hvisible⟩ := List.mem_filter.1 hcell
  rw [hvalue _ _ (hr.content cell hmem hvisible), raw_ofContent]

theorem of_formula? (hbottom : range.bottom < h.rows i) (hright : range.right < h.columns i)
    (hplain : ∀ cell ∈ range.cells, isVisible h i cell = true →
      (h.content i cell.1 cell.2).formula? = none) : ConstantsInSight h i range where
  bottom_lt := hbottom
  right_lt := hright
  content cell hcell hvisible text htext := by
    have hnone := hplain cell hcell hvisible
    rw [htext] at hnone
    cases hnone

/-- Where no cell is hidden, all cells of the range are constants. -/
theorem constants (hr : ConstantsInSight h i range)
    (hall : ∀ cell ∈ range.cells, isVisible h i cell = true) : Constants h i range where
  bottom_lt := hr.bottom_lt
  right_lt := hr.right_lt
  content row column hcell :=
    have hmem : (row, column) ∈ range.cells := Range.mem_cells.2 hcell
    hr.content _ hmem (hall _ hmem)

end ConstantsInSight

theorem visibleValues_of_forall (hall : ∀ cell ∈ range.cells, isVisible h i cell = true) :
    visibleValues h i range = valuesOf h i range.cells := by
  rw [visibleValues, List.filter_eq_self.2 hall]

end

namespace SameInSight

variable {h h' : Host} (hsame : SameInSight h h') {i : Nat} {range : Range}
include hsame

theorem knowsNoNames (hh : h.KnowsNoNames) : h'.KnowsNoNames := by
  rw [hsame.rest]
  exact hh

theorem isVisible_eq : isVisible h' = isVisible h := by
  rw [hsame.rest]
  rfl

theorem constantsInSight (hr : ConstantsInSight h i range) : ConstantsInSight h' i range where
  bottom_lt := by
    rw [hsame.rest]
    exact hr.bottom_lt
  right_lt := by
    rw [hsame.rest]
    exact hr.right_lt
  content cell hmem hvisible := by
    rw [hsame.isVisible_eq] at hvisible
    rw [hsame.content i cell hvisible]
    exact hr.content cell hmem hvisible

theorem visibleValues_eq : visibleValues h' i range = visibleValues h i range := by
  rw [visibleValues, visibleValues, hsame.isVisible_eq]
  refine List.map_congr_left fun cell hcell => ?_
  rw [hsame.content i cell (List.mem_filter.1 hcell).2]

theorem formatted_eq (e e' : Engine) (format : Option String) :
    formatted (e.surroundings h') format = formatted (e'.surroundings h) format := by
  rw [hsame.rest]
  rfl

end SameInSight

/-! ## Workbooks -/

/-- Two sheets differ at most in what the cells of hidden rows and columns hold. -/
structure SheetsSameInSight (w w' : Worksheet) : Prop where
  /-- Nothing but stored cells differs. -/
  rest : w' = { w with cells := w'.cells }
  /-- Cells have the same formats. -/
  format?_eq : w'.format? = w.format?
  /-- Cells that are not hidden hold the same. -/
  content : ∀ row column, w.isRowHidden row = false → w.isColumnHidden column = false →
    w'.content row column = w.content row column

/-- Writing into a hidden cell of a sheet is such a difference. -/
theorem SheetsSameInSight.setContent {w : Worksheet} {row column : Nat} (hrow : row < w.rows)
    (hcolumn : column < w.columns)
    (hhidden : w.isRowHidden row = true ∨ w.isColumnHidden column = true) (c : Content) :
    SheetsSameInSight w (w.setContent row column c) where
  rest := by
    have hrows : max w.rows (row + 1) = w.rows := Nat.max_eq_left hrow
    have hcolumns : max w.columns (column + 1) = w.columns := Nat.max_eq_left hcolumn
    simp only [Worksheet.setContent, Worksheet.modify, Worksheet.growTo, hrows, hcolumns]
  format?_eq := by
    funext i j
    rw [Worksheet.format?_eq_cellAt, Worksheet.format?_eq_cellAt, Worksheet.cellAt_setContent]
    split <;> rfl
  content i j hi hj := by
    have hne : (i, j) ≠ (row, column) := by
      rintro heq
      obtain ⟨rfl, rfl⟩ := Prod.mk.inj heq
      simp [hi, hj] at hhidden
    rw [Worksheet.content_eq_cellAt, Worksheet.content_eq_cellAt, Worksheet.cellAt_setContent,
      if_neg hne]

theorem getElem?_of_forall₂ {ws ws' : List Worksheet} (h : List.Forall₂ SheetsSameInSight ws ws')
    (i : Nat) :
    (ws[i]? = none ∧ ws'[i]? = none) ∨
      ∃ w w', ws[i]? = some w ∧ ws'[i]? = some w' ∧ SheetsSameInSight w w' := by
  induction h generalizing i with
  | nil => exact .inl ⟨rfl, rfl⟩
  | @cons w w' _ _ hw _ ih =>
    cases i with
    | zero => exact .inr ⟨w, w', rfl, rfl, hw⟩
    | succ i => simpa using ih i

/-- Workbooks that differ in hidden cells are hosts that do. -/
theorem SameInSight.of_sheets {b b' : Workbook} (hselected : b'.selected = b.selected)
    (h : List.Forall₂ SheetsSameInSight b.sheets b'.sheets) : SameInSight b.host b'.host where
  rest := by
    have hlength := h.length_eq
    simp only [Workbook.host, Host.mk.injEq, hselected, hlength, true_and, and_true]
    refine ⟨?_, ?_, ?_, ?_, ?_, ?_⟩ <;>
    · funext i
      obtain ⟨hw, hw'⟩ | ⟨w, w', hw, hw', hsame⟩ := getElem?_of_forall₂ h i
      · rw [hw, hw']
      · rw [hw, hw']
        first
        | exact hsame.format?_eq
        | rw [hsame.rest]; rfl
  content := by
    rintro i ⟨row, column⟩ hvisible
    obtain ⟨hw, hw'⟩ | ⟨w, w', hw, hw', hsame⟩ := getElem?_of_forall₂ h i
    · simp only [Workbook.host, hw, hw']
    · simp only [isVisible, Workbook.host, hw, Option.map_some, Option.getD_some, Bool.not_eq_true',
        Bool.or_eq_false_iff] at hvisible
      simp only [Workbook.host, hw, hw', Option.map_some, Option.getD_some]
      exact hsame.content row column hvisible.1 hvisible.2

/-! ## Subtotals -/

/-- A tree is a call of `SUBTOTAL` with a code and ranges on sheets. -/
def IsSubtotal (e : Engine) (h : Host) (o : Options) (tree : Expr) (code : Int)
    (ranges : List (Nat × Range)) : Prop :=
  ∃ f ec es, tree = .call f (ec :: es) ∧ f.body = .builtin .subtotal ∧ e.IsWhole h o ec code ∧
    List.Forall₂ (fun ex p => e.IsRange h o ex p.1 p.2) es ranges

/-- So is one with a number and references that are written and name no sheet. -/
theorem isSubtotal_call {e : Engine} {h : Host} {o : Options} {f : Function}
    (hf : f.body = .builtin .subtotal) {x : Float} {code : Int} (hx : x.isNaN = false)
    (hcode : Decimal.whole? x = some code) {rs : List Reference} (hrs : ∀ r ∈ rs, r.sheet = none) :
    e.IsSubtotal h o (.call f (.literal (.number x) :: rs.map .reference)) code
      (rs.map fun r => (o.sheet.getD h.selected, r.range)) := by
  refine ⟨f, _, _, rfl, hf, isWhole_literal hx hcode, ?_⟩
  rw [List.forall₂_map_left_iff, List.forall₂_map_right_iff, List.forall₂_same]
  exact fun r hr => isRange_reference (sheetOf_of_none (hrs r hr))

/-- The codes up to eleven stand for the aggregates with the hidden cells, and a hundred more for
those without them. -/
theorem exists_ofCode? {k : Int} (hk : 1 ≤ k) (hk' : k ≤ 11) :
    ∃ kind, Aggregate.ofCode? k = some (kind, true) ∧
      Aggregate.ofCode? (100 + k) = some (kind, false) := by
  obtain rfl | rfl | rfl | rfl | rfl | rfl | rfl | rfl | rfl | rfl | rfl :
      k = 1 ∨ k = 2 ∨ k = 3 ∨ k = 4 ∨ k = 5 ∨ k = 6 ∨ k = 7 ∨ k = 8 ∨ k = 9 ∨ k = 10 ∨ k = 11 := by
    omega
  all_goals exact ⟨_, rfl, rfl⟩

/-- An aggregate is not a reference, which would be read. -/
theorem settled_aggregate (q : Answers) (kind : Aggregate) (vs : List Value) :
    kind.apply vs >>= settledValue q = kind.apply vs := by
  cases hx : kind.apply vs with
  | error e => rfl
  | ok v =>
    have hregular := Value.aggregate_apply_regular kind vs
    rw [hx, regular_ok] at hregular
    cases v with
    | reference r => exact absurd rfl (Value.ne_reference hregular r)
    | _ => rfl

namespace AtRest

variable {e : Engine} {h : Host} {o : Options} {tree : Expr} {text : String} {code : Int}
  {ranges : List (Nat × Range)} {kind : Aggregate} {hidden : Bool}
  (he : e.AtRest) (hh : h.KnowsNoNames) (htext : treesOf e.registry text tree)
  (htree : e.IsSubtotal h o tree code ranges) (hcode : code.natAbs < 2 ^ 63)
include he hh htext htree hcode

/-- `SUBTOTAL` gives the aggregate of the values that its ranges are answered with. -/
theorem tryEvaluate_subtotal (hkind : Aggregate.ofCode? code = some (kind, hidden))
    {values : Nat × Range → List Value}
    (hvalues : ∀ p ∈ ranges, ∀ r, sheetOf h (o.sheet.getD h.selected) r = .ok p.1 → r.range = p.2 →
      (answers e.registry h (o.sheet.getD h.selected)).cells r hidden = .ok (values p)) :
    (e.tryEvaluate h text o).1 =
      (kind.apply (ranges.flatMap values)).map (formatted (e.surroundings h) o.format) := by
  obtain ⟨f, ec, es, rfl, hf, hec, hes⟩ := htree
  obtain ⟨x, hx, hwhole⟩ := (he.isWhole_iff hh).1 hec
  have hentries : List.Forall₂ (fun a p => (a.values hidden).under
      (answers e.registry h (o.sheet.getD h.selected)) = .ok (values p))
      (es.map (argumentOf ((e.surroundings h).context o))) ranges := by
    refine List.forall₂_map_left_iff.2 (List.forall₂_iff_zip.2 ⟨hes.length_eq, fun hmem => ?_⟩)
    obtain ⟨r, hr, hi, hrange⟩ := he.operand_under_of_isRange hh (List.forall₂_zip hes hmem)
    rw [values_under_range hr]
    exact hvalues _ (List.of_mem_zip hmem).2 r hi hrange
  rw [he.tryEvaluate_eq_map hh htext, settled_under, evaluate_call hf, argumentsOf_eq_map,
    List.map_cons]
  simp only [applyBuiltin]
  rw [subtotal_under, hx, ok_bind,
    Decimal.toSigned64_of_small (Decimal.whole?_truncate hwhole) hcode, hkind]
  dsimp only
  rw [collect_under_of_forall hentries, ok_bind, settled_aggregate]

variable (hranges : ∀ p ∈ ranges, ConstantsInSight h p.1 p.2)
include hranges

/-- A code that leaves hidden cells out gives the aggregate of what the visible ones hold. -/
theorem tryEvaluate_visible (hkind : Aggregate.ofCode? code = some (kind, false)) :
    (e.tryEvaluate h text o).1 =
      (kind.apply (ranges.flatMap fun p => visibleValues h p.1 p.2)).map
        (formatted (e.surroundings h) o.format) := by
  refine he.tryEvaluate_subtotal hh htext htree hcode hkind fun p hp r hi hr => ?_
  have hp := hranges p hp
  rw [← hr] at hp
  rw [hp.answers_visible e.registry hi, hr]

/-- A code that includes hidden cells gives the same where there are none. -/
theorem tryEvaluate_included (hkind : Aggregate.ofCode? code = some (kind, true))
    (hall : ∀ p ∈ ranges, ∀ cell ∈ p.2.cells, isVisible h p.1 cell = true) :
    (e.tryEvaluate h text o).1 =
      (kind.apply (ranges.flatMap fun p => visibleValues h p.1 p.2)).map
        (formatted (e.surroundings h) o.format) := by
  refine he.tryEvaluate_subtotal hh htext htree hcode hkind fun p hp r hi hr => ?_
  have hconstants := (hranges p hp).constants (hall p hp)
  rw [← hr] at hconstants
  rw [hconstants.answers_cells e.registry hi, cellsToRead_all, hr,
    visibleValues_of_forall (hall p hp)]

end AtRest

/-- With a code above a hundred `SUBTOTAL` gives the aggregate of what the visible cells of its
ranges hold, row by row, if they are constants.  So what hidden cells hold makes no difference,
and where no cell of the ranges is hidden it gives what the code without the hundred gives. -/
theorem Reached.subtotal_hidden {settings settings' : Settings} {fs fs' : List Function}
    {e e' : Engine} (he : Reached settings fs e) (he' : Reached settings' fs' e') {h h' : Host}
    (hh : h.KnowsNoNames) (hsame : SameInSight h h') {o : Options} {k : Int} (hk : 1 ≤ k)
    (hk' : k ≤ 11) {ranges : List (Nat × Range)}
    (hranges : ∀ p ∈ ranges, ConstantsInSight h p.1 p.2)
    {text text' : String} {tree tree' : Expr} (htext : treesOf e.registry text tree)
    (htree : e.IsSubtotal h o tree (100 + k) ranges) (htext' : treesOf e'.registry text' tree')
    (htree' : e'.IsSubtotal h' o tree' (100 + k) ranges) :
    ∃ kind, Aggregate.ofCode? k = some (kind, true) ∧
      (e.tryEvaluate h text o).1 =
        (kind.apply (ranges.flatMap fun p => visibleValues h p.1 p.2)).map
          (formatted (e.surroundings h) o.format) ∧
      (e'.tryEvaluate h' text' o).1 = (e.tryEvaluate h text o).1 ∧
      ((∀ p ∈ ranges, ∀ cell ∈ p.2.cells, isVisible h p.1 cell = true) →
        ∀ {whole : String} {tree : Expr}, treesOf e.registry whole tree →
          e.IsSubtotal h o tree k ranges →
          (e.tryEvaluate h whole o).1 = (e.tryEvaluate h text o).1) := by
  obtain ⟨kind, hincluded, hleft⟩ := exists_ofCode? hk hk'
  have hresult := he.atRest.1.tryEvaluate_visible hh htext htree (by omega) hranges hleft
  have hresult' := he'.atRest.1.tryEvaluate_visible (hsame.knowsNoNames hh) htext' htree'
    (by omega) (fun p hp => hsame.constantsInSight (hranges p hp)) hleft
  refine ⟨kind, hincluded, hresult, ?_, fun hall whole tree hwhole htree => ?_⟩
  · simp only [hresult', hresult, hsame.visibleValues_eq, hsame.formatted_eq e' e]
  · rw [he.atRest.1.tryEvaluate_included hh hwhole htree (by omega) hranges hincluded hall, hresult]

/-- A sheet of which the second row and the last column are hidden.  Behind the curtain are a
formula that leads back to the range and one that fails. -/
def curtained : Worksheet where
  name := "a"
  cells := [
    ((0, 0), { content := .number 2.0 }), ((0, 1), { content := .number 3.0 }),
    ((0, 2), { content := .formula "=1/0" }), ((1, 0), { content := .formula "=SUM(A1:C3)" }),
    ((2, 0), { content := .text "4" }), ((2, 1), { content := .boolean true })]
  hiddenRows := [1]
  hiddenColumns := [2]

/-- The sum of what is in sight is the same with a number in the place of the first formula, and in
the first row of the first two columns, where nothing is hidden, it is the plain sum. -/
theorem Reached.subtotal_hidden_curtained :
    let e := Engine.new {}
    let b : Workbook := { sheets := [curtained] }
    let b' : Workbook := { sheets := [curtained.setContent 1 0 (.number 100.0)] }
    let result (b : Workbook) (text : String) := (e.tryEvaluate b.host text {}).1
    Reached {} [] e ∧ SameInSight b.host b'.host ∧
      result b "=SUBTOTAL(109,A1:C3,B1:B3)" = .ok (.number 12.0) ∧
      result b' "=SUBTOTAL(109,A1:C3,B1:B3)" = result b "=SUBTOTAL(109,A1:C3,B1:B3)" ∧
      result b "=SUBTOTAL(9,A1:B1)" = result b "=SUBTOTAL(109,A1:B1)" := by
  intro e b b' result
  have he : Reached {} [] e := .new
  have hh : b.host.KnowsNoNames := Workbook.host_knowsNoNames _
  have hsame : SameInSight b.host b'.host :=
    .of_sheets rfl (.cons (.setContent (by decide) (by decide) (.inl rfl) _) .nil)
  let all : Reference := ⟨{ top := 0, left := 0, bottom := 2, right := 2 }, none⟩
  let second : Reference := ⟨{ top := 0, left := 1, bottom := 2, right := 1 }, none⟩
  let first : Reference := ⟨{ top := 0, left := 0, bottom := 0, right := 1 }, none⟩
  have hinside : ∀ r ∈ [all, second, first],
      r.range.bottom < b.host.rows 0 ∧ r.range.right < b.host.columns 0 := by decide
  have hplain : ∀ r ∈ [all, second, first], ∀ cell ∈ r.range.cells,
      isVisible b.host 0 cell = true → (b.host.content 0 cell.1 cell.2).formula? = none := by
    decide +kernel
  have hsight (rs : List Reference) (hrs : rs ⊆ [all, second, first]) :
      ∀ p ∈ rs.map fun r => (0, r.range), ConstantsInSight b.host p.1 p.2 :=
    List.forall_mem_map.2 fun r hr =>
      .of_formula? (hinside r (hrs hr)).1 (hinside r (hrs hr)).2 (hplain r (hrs hr))
  let subtotal (code : Float) (rs : List Reference) : Expr :=
    .call (Builtin.function .subtotal) (.literal (.number code) :: rs.map .reference)
  obtain ⟨code, hboth, hone, hcode, hk⟩ : ∃ code,
      treesOf e.registry "=SUBTOTAL(109,A1:C3,B1:B3)" (subtotal code [all, second]) ∧
      treesOf e.registry "=SUBTOTAL(109,A1:B1)" (subtotal code [first]) ∧
      code.isNaN = false ∧ Decimal.whole? code = some (100 + 9) :=
    ⟨_, ⟨"SUBTOTAL(109,A1:C3,B1:B3)", by decide +kernel, rfl⟩,
      ⟨"SUBTOTAL(109,A1:B1)", by decide +kernel, rfl⟩, by decide +kernel, by decide +kernel⟩
  have hplainCode : treesOf e.registry "=SUBTOTAL(9,A1:B1)" (subtotal 9.0 [first]) :=
    ⟨"SUBTOTAL(9,A1:B1)", by decide +kernel, rfl⟩
  have hboths : ∀ r ∈ [all, second], r.sheet = none := by decide
  have hones : ∀ r ∈ [first], r.sheet = none := by decide
  obtain ⟨_, -, -, hequal, -⟩ := Reached.subtotal_hidden he he hh hsame (o := {}) (by decide)
    (by decide) (hsight [all, second] (by simp)) hboth (isSubtotal_call rfl hcode hk hboths) hboth
    (isSubtotal_call rfl hcode hk hboths)
  obtain ⟨_, -, -, -, hwhole⟩ := Reached.subtotal_hidden he he hh hsame (o := {}) (by decide)
    (by decide) (hsight [first] (by simp)) hone (isSubtotal_call rfl hcode hk hones) hone
    (isSubtotal_call rfl hcode hk hones)
  refine ⟨he, hsame, by decide +kernel, hequal, ?_⟩
  exact hwhole (by decide +kernel) hplainCode
    (isSubtotal_call rfl (by decide +kernel) (by decide +kernel) hones)

end Spreadsheet.Engine
