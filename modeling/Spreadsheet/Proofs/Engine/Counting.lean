import Spreadsheet.Proofs.Decimal.Sums
import Spreadsheet.Proofs.Engine.Constants
import Spreadsheet.Proofs.Functions.Selections
import Spreadsheet.Proofs.Grid.Storage
import Spreadsheet.Proofs.Value.Defined

/-!
# Counting by complementary criteria

`COUNTIF` reads a range and counts the values that satisfy its criterion
(`AtRest.countIf_under`).  For the criteria that `=` and `<>` make of the same
text each value is counted exactly once, so the two counts add up to the number
of cells (`Reached.countIf_complements`).  As floats they do so up to `2 ^ 53`
cells, and the sum is what the product of `ROWS` and `COLUMNS` is.

The range may hold formulas, whose values are counted.  With built-in functions
only they are never references.
-/

namespace Spreadsheet.Engine

open Spreadsheet.Evaluation
open Spreadsheet.Evaluation.Program
open Spreadsheet.Formula (Error Expr Function Reference)
open Spreadsheet.Functions
open Spreadsheet.Grid (Range Workbook)
open Spreadsheet.Value (Criterion Unmarked)

/-- A tree is a call of `COUNTIF` with a range and the value of a criterion. -/
def IsCountIf (e : Engine) (h : Host) (o : Options) (tree : Expr) (r : Reference) (v : Value) :
    Prop :=
  ∃ f er ec, tree = .call f [er, ec] ∧ f.body = .builtin .countIf ∧
    (e.runProgram h (o.sheet.getD h.selected)
      ((argumentOf ((e.surroundings h).context o) er).reference "COUNTIF")).1 = .ok r ∧
    (e.runProgram h (o.sheet.getD h.selected)
      (argumentOf ((e.surroundings h).context o) ec).value).1 = .ok v

/-- A tree is the product of `ROWS` and `COLUMNS` of a range. -/
def IsSize (e : Engine) (h : Host) (o : Options) (tree : Expr) (r : Reference) : Prop :=
  ∃ f f' er, tree = .binary .multiply (.call f [er]) (.call f' [er]) ∧
    f.body = .builtin .rows ∧ f'.body = .builtin .columns ∧
    (e.runProgram h (o.sheet.getD h.selected)
      ((argumentOf ((e.surroundings h).context o) er).reference "ROWS")).1 = .ok r ∧
    (e.runProgram h (o.sheet.getD h.selected)
      ((argumentOf ((e.surroundings h).context o) er).reference "COLUMNS")).1 = .ok r

/-! ## Numbers -/

section

variable {q : Answers} {a b : Argument} {r : Reference}

theorem applyOperator_under {op : Formula.Operator} {v w : Value} (ha : a.value.under q = .ok v)
    (hb : b.value.under q = .ok w) : (applyOperator op a b).under q = operatorResult op v w := by
  simp only [applyOperator, bind_eq, under_bind_of_ok ha, under_bind_of_ok hb, under_ofExcept]

/-- A program that gives a number is an argument with this value. -/
theorem value_under {p : Program Value} {x : Float} (hp : p.under q = .ok (.number x)) :
    (Argument.computed p).value.under q = .ok (.number x) := by
  simp only [Argument.value, Argument.operand, bind_eq, under_bind, hp]
  rfl

theorem measure_under {function : String} (ha : (a.reference function).under q = .ok r)
    (f : Range → Nat) :
    (Functions.measure function f [a]).under q = .ok (.number (Float.ofNat (f r.range))) := by
  have hfirst : argument [a] 0 = .done a := rfl
  simp only [Functions.measure, bind_eq, hfirst, done_bind, under_bind_of_ok ha, pure_eq, under_done]

theorem checked_ofNat (n : Nat) : checked (Float.ofNat n) = .ok (.number (Float.ofNat n)) := by
  rw [checked, isNaN_ofNat]
  rfl

end

/-! ## Engines -/

section

variable {e : Engine} {h : Host} {o : Options} {tree tree' : Expr} {text : String} {r : Reference}
  {v : Value} {vs : List Value}

namespace AtRest

variable (he : e.AtRest) (hh : h.KnowsNoNames)
include he hh

/-- `COUNTIF` is refused with its criterion, and it counts the values that satisfy it. -/
theorem countIf_under (hcount : e.IsCountIf h o tree r v)
    (hcells : (answers e.registry h (o.sheet.getD h.selected)).cells r true = .ok vs)
    (hvs : ∀ w ∈ vs, ∀ r, w ≠ .reference r) :
    ∃ p, argumentOf ((e.surroundings h).context o) tree = .computed p ∧
      p.under (answers e.registry h (o.sheet.getD h.selected)) =
        (Criterion.read v).map fun c => .number (Float.ofNat (vs.countP c.holds)) := by
  obtain ⟨f, er, ec, rfl, hf, hr, hv⟩ := hcount
  rw [he.runProgram hh] at hr hv
  refine ⟨_, rfl, ?_⟩
  simp only [argumentsOf, applyFunction, hf, applyBuiltin]
  exact countSelected_under_one hr hv hcells hvs

/-- The product of `ROWS` and `COLUMNS` is the number of cells. -/
theorem tryEvaluate_size (ho : o.format = none) (htext : treesOf e.registry text tree)
    (hsize : e.IsSize h o tree r) (hlt : r.range.rows * r.range.columns < 2 ^ 53) :
    (e.tryEvaluate h text o).1 =
      .ok (.number (Float.ofNat (r.range.rows * r.range.columns))) := by
  obtain ⟨f, f', er, rfl, hf, hf', hr, hr'⟩ := hsize
  rw [he.runProgram hh] at hr hr'
  have hrows := value_under (measure_under hr (·.rows))
  have hcolumns := value_under (measure_under hr' (·.columns))
  rw [he.tryEvaluate_of_tree hh htext ho, settled_under]
  simp only [Evaluation.evaluate, argumentOf, argumentsOf, Argument.result, applyFunction, hf, hf',
    applyBuiltin]
  rw [applyOperator_under hrows hcolumns]
  have hrowsPos : 0 < r.range.rows := Nat.succ_pos _
  change checked (Float.ofNat _ * Float.ofNat _) >>= _ = _
  rw [Decimal.mul_ofNat hrowsPos r.range.columns_pos hlt, checked_ofNat]
  rfl

/-- A tree that is a computed argument evaluates to what is computed. -/
theorem tryEvaluate_of_computed {p : Program Value} (ho : o.format = none)
    (htext : treesOf e.registry text tree)
    (hp : argumentOf ((e.surroundings h).context o) tree = .computed p) :
    (e.tryEvaluate h text o).1 =
      p.under (answers e.registry h (o.sheet.getD h.selected)) >>=
        settledValue (answers e.registry h (o.sheet.getD h.selected)) := by
  rw [he.tryEvaluate_of_tree hh htext ho, settled_under, Evaluation.evaluate, hp, Argument.result]

/-- The sum of two counts is the number of values that they count. -/
theorem tryEvaluate_sum {p p' : Program Value} {n n' : Nat} (ho : o.format = none)
    (htext : treesOf e.registry text (.binary .add tree tree'))
    (hp : argumentOf ((e.surroundings h).context o) tree = .computed p)
    (hp' : argumentOf ((e.surroundings h).context o) tree' = .computed p')
    (hn : p.under (answers e.registry h (o.sheet.getD h.selected)) =
      .ok (.number (Float.ofNat n)))
    (hn' : p'.under (answers e.registry h (o.sheet.getD h.selected)) =
      .ok (.number (Float.ofNat n'))) (hlt : n + n' < 2 ^ 53) :
    (e.tryEvaluate h text o).1 = .ok (.number (Float.ofNat (n + n'))) := by
  rw [he.tryEvaluate_of_computed hh ho htext rfl, hp, hp',
    applyOperator_under (value_under hn) (value_under hn')]
  change checked (Float.ofNat n + Float.ofNat n') >>= _ = _
  rw [Decimal.add_ofNat hlt, checked_ofNat]
  rfl

end AtRest

end

/-- The criteria that `=` and `<>` make of a text are complements, and a text without an operator is
the first of them.  The counts of the two in a range add up to the number of its cells. -/
theorem Reached.countIf_complements (s : String) :
    Criterion.Complements (Criterion.read (.text ("=" ++ s)))
        (Criterion.read (.text ("<>" ++ s))) ∧
      (Unmarked s → Criterion.read (.text s) = Criterion.read (.text ("=" ++ s))) ∧
      ∀ {settings : Settings} {fs : List Function} {e : Engine}, Reached settings fs e →
        ∀ {h : Host}, h.KnowsNoNames → ∀ {o : Options}, o.format = none →
        ∀ {equal notEqual : String} {tree tree' : Expr} {r : Reference} {v v' : Value},
          treesOf e.registry equal tree → treesOf e.registry notEqual tree' →
          e.IsCountIf h o tree r v → e.IsCountIf h o tree' r v' →
          v.asText = "=" ++ s → v'.asText = "<>" ++ s →
        ∀ {sheet : Nat}, sheetOf h (o.sheet.getD h.selected) r = .ok sheet →
          r.range.bottom < h.rows sheet → r.range.right < h.columns sheet →
        ∃ vs, (e.rangeValues h (o.sheet.getD h.selected) r true none).1 = .ok vs ∧
          vs.length = r.range.rows * r.range.columns ∧
          (fs = [] → ∀ w ∈ vs, ∀ r, w ≠ .reference r) ∧
          ((∀ w ∈ vs, ∀ r, w ≠ .reference r) →
            SplitCounts (r.range.rows * r.range.columns) (Criterion.read v)
              (e.tryEvaluate h equal o).1 (e.tryEvaluate h notEqual o).1 ∧
            ∀ c, Criterion.read v = .ok c → r.range.rows * r.range.columns < 2 ^ 53 →
              ∀ {sum size : String} {sizeTree : Expr},
                treesOf e.registry sum (.binary .add tree tree') →
                treesOf e.registry size sizeTree → e.IsSize h o sizeTree r →
                (e.tryEvaluate h sum o).1 = (e.tryEvaluate h size o).1 ∧
                (e.tryEvaluate h sum o).1 =
                  .ok (.number (Float.ofNat (r.range.rows * r.range.columns)))) := by
  refine ⟨Criterion.complements rfl rfl, Criterion.read_unmarked, ?_⟩
  intro settings fs e he h hh o ho equal notEqual tree tree' r v v' htree htree' hcount hcount' hv
    hv' sheet hsheet hbottom hright
  obtain ⟨hrest, hregistry⟩ := he.atRest
  obtain ⟨value, -, -, hcells⟩ := exists_answers_cells e.registry hsheet
  replace hcells := hcells hbottom hright true
  rw [cellsToRead_all] at hcells
  refine ⟨_, (hrest.rangeValues hh _ _ _).trans hcells, ?_, ?_, fun hvs => ?_⟩
  · rw [List.length_map, Range.length_cells]
  · rintro rfl
    have hresults : (answers e.registry h (o.sheet.getD h.selected)).AreResults :=
      answersAt_areResults (s := ⟨e.registry, {}, h⟩) hh hregistry _ _ _
    exact fun w hw => Value.ne_reference (hresults.cells hcells w hw)
  · obtain ⟨p, hp, hunder⟩ := hrest.countIf_under hh hcount hcells hvs
    obtain ⟨p', hp', hunder'⟩ := hrest.countIf_under hh hcount' hcells hvs
    have hsplit := splitCounts_of_complements (Criterion.complements hv hv') hvs
    rw [← hunder, ← hunder', List.length_map, Range.length_cells] at hsplit
    rw [hrest.tryEvaluate_of_computed hh ho htree hp, hrest.tryEvaluate_of_computed hh ho htree' hp']
    generalize hread : Criterion.read v = read at hsplit
    generalize hx : p.under _ = x at hsplit
    generalize hx' : p'.under _ = x' at hsplit
    cases hsplit with
    | refused err => exact ⟨.refused err, nofun⟩
    | counted c htotal =>
      refine ⟨.counted c htotal, fun _ _ hlt sum size sizeTree hsum hsize hn => ?_⟩
      rw [hrest.tryEvaluate_size hh ho hsize hn hlt,
        hrest.tryEvaluate_sum hh ho hsum hp hp' hx hx' (htotal.trans_lt hlt), htotal]
      exact ⟨rfl, rfl⟩

/-- Two fruits, a number and a formula that repeats the first fruit. -/
def fruits : Workbook where
  sheets := [
    { name := "a"
      cells := [
        ((0, 0), { content := .text "apple" }), ((0, 1), { content := .number 2.0 }),
        ((1, 0), { content := .text "Pear" }), ((1, 1), { content := .formula "=A1" })] }]

/-- A pattern splits four cells evenly. -/
theorem Reached.countIf_complements_fruits :
    let e := Engine.new {}
    let result (text : String) := (e.tryEvaluate fruits.host text {}).1
    Reached {} [] e ∧
      SplitCounts 4 (Criterion.read (.text "=a*")) (result "=COUNTIF(A1:B2,\"=a*\")")
        (result "=COUNTIF(A1:B2,\"<>a*\")") ∧
      result "=COUNTIF(A1:B2,\"=a*\")" = .ok (.number 2.0) ∧
      result "=COUNTIF(A1:B2,\"=a*\")+COUNTIF(A1:B2,\"<>a*\")" =
        result "=ROWS(A1:B2)*COLUMNS(A1:B2)" := by
  intro e result
  have he : Reached {} [] e := .new
  let range : Expr := .reference ⟨{ top := 0, left := 0, bottom := 1, right := 1 }, none⟩
  let tree : Expr := .call (Formula.Builtin.function .countIf) [range, .literal (.text "=a*")]
  let tree' : Expr := .call (Formula.Builtin.function .countIf) [range, .literal (.text "<>a*")]
  let sizeTree : Expr := .binary .multiply (.call (Formula.Builtin.function .rows) [range])
    (.call (Formula.Builtin.function .columns) [range])
  have hequal : treesOf e.registry "=COUNTIF(A1:B2,\"=a*\")" tree :=
    ⟨"COUNTIF(A1:B2,\"=a*\")", by decide +kernel, rfl⟩
  have hnotEqual : treesOf e.registry "=COUNTIF(A1:B2,\"<>a*\")" tree' :=
    ⟨"COUNTIF(A1:B2,\"<>a*\")", by decide +kernel, rfl⟩
  have hsum : treesOf e.registry "=COUNTIF(A1:B2,\"=a*\")+COUNTIF(A1:B2,\"<>a*\")"
      (.binary .add tree tree') :=
    ⟨"COUNTIF(A1:B2,\"=a*\")+COUNTIF(A1:B2,\"<>a*\")", by decide +kernel, rfl⟩
  have hsize : treesOf e.registry "=ROWS(A1:B2)*COLUMNS(A1:B2)" sizeTree :=
    ⟨"ROWS(A1:B2)*COLUMNS(A1:B2)", by decide +kernel, rfl⟩
  have hsheet : sheetOf fruits.host 0 ⟨{ top := 0, left := 0, bottom := 1, right := 1 }, none⟩ =
      .ok 0 := rfl
  obtain ⟨-, -, hcounts⟩ := Reached.countIf_complements "a*"
  obtain ⟨vs, -, -, hvs, hsplit⟩ := hcounts he fruits.host_knowsNoNames (o := {}) rfl hequal
    hnotEqual ⟨_, _, _, rfl, rfl, rfl, rfl⟩ ⟨_, _, _, rfl, rfl, rfl, rfl⟩ rfl rfl hsheet (by decide)
    (by decide)
  obtain ⟨hsplit, hsums⟩ := hsplit (hvs rfl)
  have hread : Criterion.read (.text "=a*") = .ok (.pattern [.letter 'a', .many] false) := by
    decide +kernel
  obtain ⟨hsame, -⟩ := hsums _ hread (by decide) hsum hsize ⟨_, _, _, rfl, rfl, rfl, rfl, rfl⟩
  exact ⟨he, hsplit, by decide +kernel, hsame⟩

end Spreadsheet.Engine
