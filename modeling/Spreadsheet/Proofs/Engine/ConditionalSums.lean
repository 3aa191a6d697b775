import Spreadsheet.Proofs.Engine.Conjunctions
import Spreadsheet.Proofs.Functions.ConditionalSums

/-!
# Conditional sums and sums of lists

`SUMIF` and `SUMIFS` with one pair add up the values of one range where the
values of another satisfy a criterion (`AtRest.tryEvaluate_sumIf`,
`AtRest.tryEvaluate_sumIfs`).  For the same values in a list, `SUM` comes to the
same number when truth values are replaced by what they count
(`Reached.sumIf_chosen`).  With truth values, or where `SUM` gives a moment,
the two differ (`sumIf_ne_sum`).
-/

namespace Spreadsheet.Engine

open Spreadsheet.Calendar (Date)
open Spreadsheet.Decimal (SameNumber)
open Spreadsheet.Evaluation
open Spreadsheet.Evaluation.Program
open Spreadsheet.Formula (Expr Function Reference)
open Spreadsheet.Functions
open Spreadsheet.Grid (Range Workbook)
open Spreadsheet.Value (Criterion allDates momentOrNumber numbers sameNumber_total total)

/-! ## Lists of values -/

/-- The values of a range at the places that pass a test, row by row. -/
def chosenValues (h : Host) (t : RangeTest) (i : Nat) (range : Range) : List Value :=
  ((List.range (range.rows * range.columns)).filter (t.passes h)).map (placeValue h i range)

/-- What a sum of values gives that comes to a number: the moment that the number stands for, where
the numbers among the values are all moments, and the number otherwise. -/
def SumsTo (vs : List Value) (x : Float) (v : Value) : Prop :=
  (allDates vs = false → v = .number x) ∧
    (allDates vs = true → v = ((Calendar.Moment.ofSerial? x).map Value.date).getD (.number x))

theorem sumsTo_momentOrNumber (vs : List Value) (x : Float) :
    SumsTo vs x (momentOrNumber (allDates vs) x) := by
  unfold SumsTo momentOrNumber
  cases Calendar.Moment.ofSerial? x with
  | none => exact ⟨fun _ => rfl, fun _ => rfl⟩
  | some m => exact ⟨fun hdates => if_neg (by simp [hdates]), fun hdates => if_pos hdates⟩

theorem counted_ofContent {content : Grid.Content} (h : ∀ b, content ≠ .boolean b) :
    (Value.ofContent content).counted = .ofContent content := by
  cases content with
  | boolean b => exact absurd rfl (h b)
  | _ => rfl

/-- Where all places pass and no truth value is among the values, the whole range is chosen. -/
theorem counted_chosenValues {h : Host} {t : RangeTest} {i : Nat} {range : Range}
    (hpasses : ∀ k < range.rows * range.columns, t.passes h k = true)
    (hcontent : ∀ k < range.rows * range.columns, ∀ b,
      h.content i (range.cell k).1 (range.cell k).2 ≠ .boolean b) :
    (chosenValues h t i range).map Value.counted = valuesOf h i range.cells := by
  have hall : (List.range (range.rows * range.columns)).filter (t.passes h) =
      List.range (range.rows * range.columns) :=
    List.filter_eq_self.2 fun k hk => hpasses k (List.mem_range.1 hk)
  rw [chosenValues, hall, valuesOf_cells, List.map_map]
  exact List.map_congr_left fun k hk => counted_ofContent (hcontent k (List.mem_range.1 hk))

/-- A range of constants that has the shape of the tested one is added up at the places that
pass. -/
theorem sumSelected_chosen {registry : Formula.Registry} {h : Host} {base rows columns i : Nat}
    {p : Reference × Value} {s : Reference} {t : RangeTest} {function : String}
    {arguments : List Argument}
    (hpaired : Paired (GivesRange (answers registry h base) function)
      (GivesValue (answers registry h base)) arguments [p])
    (ht : MakesTest h base rows columns p t) (hi : sheetOf h base s = .ok i)
    (hs : Constants h i s.range) (hrows : s.range.rows = rows)
    (hcolumns : s.range.columns = columns) :
    ((selection function arguments (some s)).under (answers registry h base) >>= fun flags =>
        (sumSelected s flags).under (answers registry h base)) =
      .ok (.number (total (((chosenValues h t i s.range).map Value.toNumber).filter
        fun x => !x.isNaN))) := by
  have hshape : ∀ r ∈ [p].map (·.1) ++ (some s).toList,
      r.range.rows = rows ∧ r.range.columns = columns := by
    simp [ht.range, ht.rows, ht.columns, hrows, hcolumns]
  have hselected : (selection function arguments (some s)).under (answers registry h base) =
      .ok ((List.range (rows * columns)).map (t.passes h)) := by
    rw [selection_under_eq_ok hpaired (List.cons_ne_nil _ _) (.cons ⟨rfl, ht.criterion⟩ .nil)
      (sameShape_of_forall hshape) (.cons (ht.flagged registry) .nil)]
    simp only [List.all_cons, List.all_nil, Bool.and_true]
  have hcells : (answers registry h base).cells s true =
      .ok ((List.range (rows * columns)).map (placeValue h i s.range)) := by
    rw [hs.answers_cells registry hi, cellsToRead_all, valuesOf_cells, hrows, hcolumns]
  rw [hselected, ok_bind, sumSelected_under hcells, chosenValues, hrows, hcolumns]

/-! ## Engines -/

/-- A tree is a call of `SUMIF` with a range, the value of its criterion and a range to add up. -/
def IsSumIf (e : Engine) (h : Host) (o : Options) (tree : Expr) (p : Reference × Value)
    (s : Reference) : Prop :=
  ∃ f er ec es, tree = .call f [er, ec, es] ∧ f.body = .builtin .sumIf ∧
    e.GivesPairs h o "SUMIF" [er, ec] [p] ∧
    (e.runProgram h (o.sheet.getD h.selected)
      ((argumentOf ((e.surroundings h).context o) es).reference "SUMIF")).1 = .ok s

/-- A tree is a call of `SUMIFS` with a range to add up, another range and the value of its
criterion. -/
def IsSumIfs (e : Engine) (h : Host) (o : Options) (tree : Expr) (p : Reference × Value)
    (s : Reference) : Prop :=
  ∃ f er ec es, tree = .call f [es, er, ec] ∧ f.body = .builtin .sumIfs ∧
    e.GivesPairs h o "SUMIFS" [er, ec] [p] ∧
    (e.runProgram h (o.sheet.getD h.selected)
      ((argumentOf ((e.surroundings h).context o) es).reference "SUMIFS")).1 = .ok s

/-- A tree is a call of `SUM` with arguments that have these values. -/
def IsSum (e : Engine) (h : Host) (o : Options) (tree : Expr) (vs : List Value) : Prop :=
  ∃ f es, tree = .call f es ∧ f.body = .builtin .sum ∧
    (e.runProgram h (o.sheet.getD h.selected)
      (collect true (argumentsOf ((e.surroundings h).context o) es))).1 = .ok vs

/-- A tree is a call of `SUM` with a range. -/
def IsSumOf (e : Engine) (h : Host) (o : Options) (tree : Expr) (s : Reference) : Prop :=
  ∃ f es, tree = .call f [es] ∧ f.body = .builtin .sum ∧
    (e.runProgram h (o.sheet.getD h.selected)
      ((argumentOf ((e.surroundings h).context o) es).reference "SUM")).1 = .ok s

section

variable {e : Engine} {h : Host} {o : Options} {tree : Expr} {text : String}
  {p : Reference × Value} {s : Reference} {rows columns i : Nat} {t : RangeTest}
  {vs : List Value}

namespace AtRest

variable (he : e.AtRest) (hh : h.KnowsNoNames) (ho : o.format = none)
include he hh ho

/-- `SUM` gives the number that the numbers among its values add up to, or the moment that it stands
for. -/
theorem tryEvaluate_sumOf (htext : treesOf e.registry text tree) (hsum : e.IsSum h o tree vs) :
    (e.tryEvaluate h text o).1 = .ok (momentOrNumber (allDates vs) (total (numbers vs))) := by
  obtain ⟨f, es, rfl, hf, hvs⟩ := hsum
  rw [he.runProgram hh] at hvs
  rw [he.tryEvaluate_of_call hh hf htext ho, applyBuiltin, aggregate_sum_under hvs, ok_bind,
    momentOrNumber]
  cases Calendar.Moment.ofSerial? (total (numbers vs)) with
  | none => rfl
  | some m => cases allDates vs <;> rfl

variable (htext : treesOf e.registry text tree)
  (ht : MakesTest h (o.sheet.getD h.selected) rows columns p t)
  (hi : sheetOf h (o.sheet.getD h.selected) s = .ok i) (hs : Constants h i s.range)
  (hrows : s.range.rows = rows) (hcolumns : s.range.columns = columns)
include htext ht hi hs hrows hcolumns

/-- `SUMIF` adds up what the chosen values count. -/
theorem tryEvaluate_sumIf (hsum : e.IsSumIf h o tree p s) :
    (e.tryEvaluate h text o).1 =
      .ok (.number (total (((chosenValues h t i s.range).map Value.toNumber).filter
        fun x => !x.isNaN))) := by
  obtain ⟨f, er, ec, es, rfl, hf, hps, hrange⟩ := hsum
  rw [he.runProgram hh] at hrange
  have hpaired := he.paired_arguments hh hps
  rw [he.tryEvaluate_of_call hh hf htext ho]
  simp only [argumentsOf, applyBuiltin] at hpaired ⊢
  rw [sumIf_under hrange, sumSelected_chosen hpaired ht hi hs hrows hcolumns]
  rfl

/-- `SUMIFS` with one pair does the same as `SUMIF`. -/
theorem tryEvaluate_sumIfs (hsum : e.IsSumIfs h o tree p s) :
    (e.tryEvaluate h text o).1 =
      .ok (.number (total (((chosenValues h t i s.range).map Value.toNumber).filter
        fun x => !x.isNaN))) := by
  obtain ⟨f, er, ec, es, rfl, hf, hps, hrange⟩ := hsum
  rw [he.runProgram hh] at hrange
  have hpaired := he.paired_arguments hh hps
  rw [he.tryEvaluate_of_call hh hf htext ho]
  simp only [argumentsOf, applyBuiltin] at hpaired ⊢
  rw [sumIfs_under hrange, sumSelected_chosen hpaired ht hi hs hrows hcolumns]
  rfl

end AtRest

/-- A call of `SUM` with a range of constants is one with their values. -/
theorem IsSumOf.isSum (he : e.AtRest) (hh : h.KnowsNoNames) (hsum : e.IsSumOf h o tree s)
    (hi : sheetOf h (o.sheet.getD h.selected) s = .ok i) (hs : Constants h i s.range) :
    e.IsSum h o tree (valuesOf h i s.range.cells) := by
  obtain ⟨f, es, rfl, hf, hrange⟩ := hsum
  rw [he.runProgram hh] at hrange
  refine ⟨f, [es], rfl, hf, ?_⟩
  rw [he.runProgram hh]
  refine collect_under_range hrange ?_
  rw [hs.answers_cells e.registry hi, cellsToRead_all]

end

/-- `SUMIF`, and `SUMIFS` with one pair, come to the same number as `SUM` does for the values that
they add up, with truth values in this list as the numbers that they count.  For all values of a
range without truth values that is what `SUM` gives for the range.  Only where all numbers in the
list are moments does `SUM` give a moment for the number. -/
theorem Reached.sumIf_chosen {settings : Settings} {fs : List Function} {e : Engine}
    (he : Reached settings fs e) {h : Host} (hh : h.KnowsNoNames) {o : Options}
    (ho : o.format = none) {p : Reference × Value} {s : Reference} {t : RangeTest}
    {rows columns i : Nat} (ht : MakesTest h (o.sheet.getD h.selected) rows columns p t)
    (hi : sheetOf h (o.sheet.getD h.selected) s = .ok i) (hs : Constants h i s.range)
    (hrows : s.range.rows = rows) (hcolumns : s.range.columns = columns) :
    ∃ x y, SameNumber x y ∧
      (∀ {text : String} {tree : Expr}, treesOf e.registry text tree →
        e.IsSumIf h o tree p s ∨ e.IsSumIfs h o tree p s →
        (e.tryEvaluate h text o).1 = .ok (.number x)) ∧
      (∀ {text : String} {tree : Expr}, treesOf e.registry text tree →
        e.IsSum h o tree ((chosenValues h t i s.range).map Value.counted) →
        ∃ v, (e.tryEvaluate h text o).1 = .ok v ∧
          SumsTo ((chosenValues h t i s.range).map Value.counted) y v) ∧
      ((∀ k < rows * columns, t.passes h k = true) →
        (∀ k < rows * columns, ∀ b,
          h.content i (s.range.cell k).1 (s.range.cell k).2 ≠ .boolean b) →
        ∀ {text : String} {tree : Expr}, treesOf e.registry text tree → e.IsSumOf h o tree s →
        ∃ v, (e.tryEvaluate h text o).1 = .ok v ∧
          SumsTo (valuesOf h i s.range.cells) y v) := by
  have hrest := he.atRest.1
  refine ⟨_, _, sameNumber_total (chosenValues h t i s.range), ?_, ?_, ?_⟩
  · rintro text tree htext (hsum | hsum)
    · exact hrest.tryEvaluate_sumIf hh ho htext ht hi hs hrows hcolumns hsum
    · exact hrest.tryEvaluate_sumIfs hh ho htext ht hi hs hrows hcolumns hsum
  · intro text tree htext hsum
    exact ⟨_, hrest.tryEvaluate_sumOf hh ho htext hsum, sumsTo_momentOrNumber _ _⟩
  · intro hpasses hcontent text tree htext hsum
    subst hrows hcolumns
    rw [counted_chosenValues hpasses hcontent]
    exact ⟨_, hrest.tryEvaluate_sumOf hh ho htext (hsum.isSum hrest hh hi hs),
      sumsTo_momentOrNumber _ _⟩

/-- Two cells marked with `x` and a third one, beside a truth value and numbers, and beside times of
day. -/
def marked : Workbook where
  sheets := [
    { name := "a"
      cells := [
        ((0, 0), { content := .text "x" }), ((0, 1), { content := .boolean true }),
        ((0, 2), { content := .date ⟨⟨0⟩, 8640, 0⟩ }),
        ((1, 0), { content := .text "x" }), ((1, 1), { content := .number 5.0 }),
        ((1, 2), { content := .date ⟨⟨0⟩, 17280, 0⟩ }),
        ((2, 0), { content := .text "y" }), ((2, 1), { content := .number 7.0 })] }]

/-- The truth value and the number beside the marks add up to six, and so do one and the number.  The
times beside the marks add up to the time that `SUM` gives for them. -/
theorem Reached.sumIf_chosen_marked :
    let e := Engine.new {}
    let result (text : String) := (e.tryEvaluate marked.host text {}).1
    let mark : RangeTest :=
      ⟨0, { top := 0, left := 0, bottom := 2, right := 0 }, .compare .equal "x"⟩
    let column : Range := { top := 0, left := 1, bottom := 2, right := 1 }
    let times : Range := { top := 0, left := 2, bottom := 1, right := 2 }
    Reached {} [] e ∧ Constants marked.host 0 mark.range ∧ Constants marked.host 0 column ∧
      chosenValues marked.host mark 0 column = [.boolean true, .number 5.0] ∧
      (∃ x y, SameNumber x y ∧ result "=SUMIF(A1:A3,\"x\",B1:B3)" = .ok (.number x) ∧
        result "=SUMIFS(B1:B3,A1:A3,\"x\")" = .ok (.number x) ∧
        result "=SUM(1,B2)" = .ok (.number y)) ∧
      result "=SUMIF(A1:A3,\"x\",B1:B3)" = .ok (.number 6.0) ∧
      (∃ x y v, SameNumber x y ∧ result "=SUMIF(A1:A2,\"x\",C1:C2)" = .ok (.number x) ∧
        result "=SUM(C1:C2)" = .ok v ∧ SumsTo (valuesOf marked.host 0 times.cells) y v) := by
  intro e result mark column times
  have he : Reached {} [] e := .new
  have hmark : Constants marked.host 0 mark.range :=
    .of_cells rfl (by decide) (by decide) (by simp)
  have hcolumn : Constants marked.host 0 column := .of_cells rfl (by decide) (by decide) (by simp)
  have hchosen : chosenValues marked.host mark 0 column = [.boolean true, .number 5.0] := by
    decide +kernel
  let marks : Reference := ⟨mark.range, none⟩
  let criterion : Expr := .literal (.text "x")
  have hfirst : ∃ x y, SameNumber x y ∧ result "=SUMIF(A1:A3,\"x\",B1:B3)" = .ok (.number x) ∧
      result "=SUMIFS(B1:B3,A1:A3,\"x\")" = .ok (.number x) ∧
      result "=SUM(1,B2)" = .ok (.number y) := by
    have ht : MakesTest marked.host 0 3 1 (marks, .text "x") mark :=
      ⟨rfl, rfl, by decide +kernel, hmark, rfl, rfl⟩
    obtain ⟨x, y, hxy, hsumIf, hsum, -⟩ := Reached.sumIf_chosen he marked.host_knowsNoNames
      (o := {}) rfl ht (s := ⟨column, none⟩) (i := 0) rfl hcolumn rfl rfl
    have htree : treesOf e.registry "=SUMIF(A1:A3,\"x\",B1:B3)"
        (.call (Formula.Builtin.function .sumIf)
          [.reference marks, criterion, .reference ⟨column, none⟩]) :=
      ⟨"SUMIF(A1:A3,\"x\",B1:B3)", by decide +kernel, rfl⟩
    have htree' : treesOf e.registry "=SUMIFS(B1:B3,A1:A3,\"x\")"
        (.call (Formula.Builtin.function .sumIfs)
          [.reference ⟨column, none⟩, .reference marks, criterion]) :=
      ⟨"SUMIFS(B1:B3,A1:A3,\"x\")", by decide +kernel, rfl⟩
    have hlist : treesOf e.registry "=SUM(1,B2)" (.call (Formula.Builtin.function .sum)
        [.literal (.number 1.0),
          .reference ⟨{ top := 1, left := 1, bottom := 1, right := 1 }, none⟩]) :=
      ⟨"SUM(1,B2)", by decide +kernel, rfl⟩
    have hvalues : (chosenValues marked.host mark 0 column).map Value.counted =
        [.number 1.0, .number 5.0] := by
      rw [hchosen]
      rfl
    rw [hvalues] at hsum
    obtain ⟨v, hv, hnumber, -⟩ := hsum hlist ⟨_, _, rfl, rfl, rfl⟩
    exact ⟨x, y, hxy, hsumIf htree (.inl ⟨_, _, _, _, rfl, rfl, .cons rfl rfl .nil, rfl⟩),
      hsumIf htree' (.inr ⟨_, _, _, _, rfl, rfl, .cons rfl rfl .nil, rfl⟩),
      hv.trans (congrArg Except.ok (hnumber rfl))⟩
  have hsecond : ∃ x y v, SameNumber x y ∧
      result "=SUMIF(A1:A2,\"x\",C1:C2)" = .ok (.number x) ∧
      result "=SUM(C1:C2)" = .ok v ∧ SumsTo (valuesOf marked.host 0 times.cells) y v := by
    let upper : Range := { top := 0, left := 0, bottom := 1, right := 0 }
    have ht : MakesTest marked.host 0 2 1 (⟨upper, none⟩, .text "x")
        ⟨0, upper, .compare .equal "x"⟩ :=
      ⟨rfl, rfl, by decide +kernel, .of_cells rfl (by decide) (by decide) (by simp), rfl, rfl⟩
    obtain ⟨x, y, hxy, hsumIf, -, hsum⟩ := Reached.sumIf_chosen he marked.host_knowsNoNames
      (o := {}) rfl ht (s := ⟨times, none⟩) (i := 0) rfl
      (.of_cells rfl (by decide) (by decide) (by simp)) rfl rfl
    have htree : treesOf e.registry "=SUMIF(A1:A2,\"x\",C1:C2)"
        (.call (Formula.Builtin.function .sumIf)
          [.reference ⟨upper, none⟩, criterion, .reference ⟨times, none⟩]) :=
      ⟨"SUMIF(A1:A2,\"x\",C1:C2)", by decide +kernel, rfl⟩
    have hrange : treesOf e.registry "=SUM(C1:C2)"
        (.call (Formula.Builtin.function .sum) [.reference ⟨times, none⟩]) :=
      ⟨"SUM(C1:C2)", by decide +kernel, rfl⟩
    have hcontent : ∀ k < 2 * 1, ∀ b,
        marked.host.content 0 (times.cell k).1 (times.cell k).2 ≠ .boolean b := by
      decide +kernel
    obtain ⟨v, hv, hsums⟩ := hsum (by decide +kernel) hcontent hrange ⟨_, _, rfl, rfl, rfl⟩
    exact ⟨x, y, v, hxy, hsumIf htree (.inl ⟨_, _, _, _, rfl, rfl, .cons rfl rfl .nil, rfl⟩), hv,
      hsums⟩
  exact ⟨he, hmark, hcolumn, hchosen, hfirst, by decide +kernel, hsecond⟩

/-- `SUM` leaves a truth value out, and gives the sum of two times of day as a time of day. -/
theorem sumIf_ne_sum :
    let result (text : String) := ((Engine.new {}).tryEvaluate marked.host text {}).1
    Constants marked.host 0 { top := 0, left := 0, bottom := 1, right := 0 } ∧
      Constants marked.host 0 { top := 0, left := 1, bottom := 1, right := 1 } ∧
      Constants marked.host 0 { top := 0, left := 2, bottom := 1, right := 2 } ∧
      result "=COUNTIF(A1:A2,\"x\")" = .ok (.number 2.0) ∧
      result "=SUMIF(A1:A2,\"x\",B1:B2)" = .ok (.number 6.0) ∧
      result "=SUM(B1:B2)" = .ok (.number 5.0) ∧
      result "=SUMIF(A1:A2,\"x\",C1:C2)" = .ok (.number 0.30000000000000004) ∧
      result "=SUM(C1:C2)" = .ok (.date ⟨⟨0⟩, 25920, 0⟩) ∧
      (Value.date ⟨⟨0⟩, 25920, 0⟩).toNumber = 0.3 := by
  refine ⟨.of_cells rfl (by decide) (by decide) (by simp),
    .of_cells rfl (by decide) (by decide) (by simp),
    .of_cells rfl (by decide) (by decide) (by simp), ?_⟩
  decide +kernel

end Spreadsheet.Engine
