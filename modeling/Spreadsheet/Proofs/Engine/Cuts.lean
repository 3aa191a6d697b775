import Spreadsheet.Proofs.Engine.Conjunctions
import Spreadsheet.Proofs.Engine.Counting
import Spreadsheet.Proofs.Engine.Expressions
import Spreadsheet.Proofs.Engine.RangeValues
import Spreadsheet.Proofs.Functions.Aggregates
import Spreadsheet.Proofs.Grid.Cuts

/-!
# Ranges in two parts as arguments

A range of constants may be given to a function in two parts, cut between two
rows or between two columns.  Which functions do not notice depends on the cut.

* Between rows the parts have the values of the range in their order, with
  the hidden ones or without.  So no function notices that reduces the list of all
  values, and `SUBTOTAL` does not, whichever rows and columns are hidden.
* Between columns the order is another one.  Functions that only count do not
  notice, and neither do `AND` and `OR` if the values that are not blank have truth
  values.  A sum of floats would depend on the order.

`COUNTIF` takes one range, and its counts of the parts add up to that of the
range for both cuts (`Reached.aggregates_cut`).
-/

namespace Spreadsheet.Engine

open Spreadsheet.Evaluation
open Spreadsheet.Evaluation.Program
open Spreadsheet.Formula (Builtin Error Expr Function Reference)
open Spreadsheet.Functions
open Spreadsheet.Grid (Range Workbook)
open Spreadsheet.Value (Criterion)

/-! ## Values of the parts -/

section

variable {range first second : Range}

/-- Whichever rows and columns are hidden, the values that are read of two parts above each other
are those that are read of the range, in their order. -/
theorem valuesOf_cutByRows (hcut : range.CutByRows first second) (h : Host) (i : Nat)
    (hidden : Bool) :
    valuesOf h i (cellsToRead h i first hidden none) ++
        valuesOf h i (cellsToRead h i second hidden none) =
      valuesOf h i (cellsToRead h i range hidden none) := by
  rw [valuesOf, valuesOf, valuesOf, cellsToRead_eq, cellsToRead_eq, cellsToRead_eq, hcut.cells_eq,
    List.filter_append, List.map_append]
  rfl

/-- The values of two parts, one after the other, are those of the range. -/
theorem valuesOf_cut (hcut : range.Cut first second) (h : Host) (i : Nat) :
    (valuesOf h i first.cells ++ valuesOf h i second.cells).Perm (valuesOf h i range.cells) := by
  rw [valuesOf, valuesOf, ← List.map_append]
  exact hcut.cells_perm.map _

/-- The values of the parts that satisfy a criterion are as many as those of the range. -/
theorem countP_cut (hcut : range.Cut first second) (h : Host) (i : Nat) (p : Value → Bool) :
    (valuesOf h i first.cells).countP p + (valuesOf h i second.cells).countP p =
      (valuesOf h i range.cells).countP p := by
  rw [← List.countP_append, (valuesOf_cut hcut h i).countP_eq]

end

/-! ## Functions that do not notice -/

/-- A function gives the same if two expressions stand among its arguments in the place of one.
Some expressions come before all others. -/
def IgnoresCut (e : Engine) (h : Host) (o : Options) (b : Builtin) (leading : List Expr)
    (whole first second : Expr) : Prop :=
  ∀ (f : Function) (before after : List Expr), f.body = .builtin b →
    e.GivesSame h o (.call f (leading ++ before ++ first :: second :: after))
      (.call f (leading ++ before ++ whole :: after))

/-- The counts of `COUNTIF` in two parts add up to the count in the range, for every criterion.  As
floats they do so up to `2 ^ 53`. -/
def AddsCounts (e : Engine) (h : Host) (o : Options) (i : Nat) (range first second : Range)
    (whole ex ex' : Expr) : Prop :=
  ∀ (f : Function) (criterion : Expr) (v : Value) (c : Criterion), f.body = .builtin .countIf →
    (e.runProgram h (o.sheet.getD h.selected)
      (argumentOf ((e.surroundings h).context o) criterion).value).1 = .ok v →
    Criterion.read v = .ok c →
    let count (r : Range) : Nat := (valuesOf h i r.cells).countP c.holds
    count first + count second = count range ∧
    e.Evaluates h o (.call f [ex, criterion]) (.ok (.number (Float.ofNat (count first)))) ∧
    e.Evaluates h o (.call f [ex', criterion]) (.ok (.number (Float.ofNat (count second)))) ∧
    e.Evaluates h o (.call f [whole, criterion]) (.ok (.number (Float.ofNat (count range)))) ∧
    (count range < 2 ^ 53 →
      e.GivesSame h o (.binary .add (.call f [ex, criterion]) (.call f [ex', criterion]))
        (.call f [whole, criterion]))

section

variable {q : Answers} {a : Argument} {r : Reference}

/-- An argument that is a range is one for every function. -/
theorem givesRange_of_operand (ha : a.operand.under q = .ok (.range r)) (function : String) :
    GivesRange q function a r := by
  unfold GivesRange
  rw [Argument.reference, bind_eq, under_bind_of_ok ha]
  rfl

end

section

variable {e : Engine} {h : Host} {o : Options} {i : Nat} {range first second : Range}
  {whole ex ex' : Expr}

namespace AtRest

variable (he : e.AtRest) (hh : h.KnowsNoNames) (hwhole : e.IsRange h o whole i range)
  (hfirst : e.IsRange h o ex i first) (hsecond : e.IsRange h o ex' i second)
  (hconstants : Constants h i range)
include he hh hwhole hfirst hsecond hconstants

/-- The parts of a range of constants are answered like the range, with the values of their own
cells. -/
theorem exists_parts (hcut : range.Cut first second) :
    ∃ r r₁ r₂,
      (argumentOf ((e.surroundings h).context o) whole).operand.under
        (answers e.registry h (o.sheet.getD h.selected)) = .ok (.range r) ∧
      (argumentOf ((e.surroundings h).context o) ex).operand.under
        (answers e.registry h (o.sheet.getD h.selected)) = .ok (.range r₁) ∧
      (argumentOf ((e.surroundings h).context o) ex').operand.under
        (answers e.registry h (o.sheet.getD h.selected)) = .ok (.range r₂) ∧
      ∀ hidden,
        (answers e.registry h (o.sheet.getD h.selected)).cells r hidden =
          .ok (valuesOf h i (cellsToRead h i range hidden none)) ∧
        (answers e.registry h (o.sheet.getD h.selected)).cells r₁ hidden =
          .ok (valuesOf h i (cellsToRead h i first hidden none)) ∧
        (answers e.registry h (o.sheet.getD h.selected)).cells r₂ hidden =
          .ok (valuesOf h i (cellsToRead h i second hidden none)) := by
  obtain ⟨r, hr, hi, rfl⟩ := he.operand_under_of_isRange hh hwhole
  obtain ⟨r₁, hr₁, hi₁, rfl⟩ := he.operand_under_of_isRange hh hfirst
  obtain ⟨r₂, hr₂, hi₂, rfl⟩ := he.operand_under_of_isRange hh hsecond
  refine ⟨r, r₁, r₂, hr, hr₁, hr₂, fun hidden => ⟨?_, ?_, ?_⟩⟩
  · exact hconstants.answers_cells e.registry hi hidden
  · exact (hconstants.within hcut.first_within).answers_cells e.registry hi₁ hidden
  · exact (hconstants.within hcut.second_within).answers_cells e.registry hi₂ hidden

/-- A function of the list of all values does not notice a cut between rows. -/
theorem ignoresCut_rows (hcut : range.CutByRows first second) {b : Builtin} (hb : b ∈ reducing) :
    e.IgnoresCut h o b [] whole ex ex' := by
  intro f before after hf
  obtain ⟨r, r₁, r₂, hr, hr₁, hr₂, hcells⟩ :=
    he.exists_parts hh hwhole hfirst hsecond hconstants (.inl hcut)
  obtain ⟨hcells, hcells₁, hcells₂⟩ := hcells true
  obtain ⟨F, hF⟩ := exists_makesOfList hb
  refine he.givesSame_call hh hf ?_
  simp only [argumentsOf_eq_map, List.nil_append, List.map_append, List.map_cons]
  rw [hF, hF]
  refine collect_under_parts hr hr₁ hr₂ hcells hcells₁ hcells₂ (fun _ _ => ?_) _ _
  rw [valuesOf_cutByRows hcut]

/-- `SUBTOTAL` does not notice a cut between rows, whichever rows and columns are hidden. -/
theorem ignoresCut_subtotal (hcut : range.CutByRows first second) (code : Expr) :
    e.IgnoresCut h o .subtotal [code] whole ex ex' := by
  intro f before after hf
  obtain ⟨r, r₁, r₂, hr, hr₁, hr₂, hcells⟩ :=
    he.exists_parts hh hwhole hfirst hsecond hconstants (.inl hcut)
  refine he.givesSame_call hh hf ?_
  simp only [argumentsOf_eq_map, List.cons_append, List.nil_append, List.map_append,
    List.map_cons, applyBuiltin, subtotal_under]
  refine congrArg _ (funext fun x => ?_)
  split
  next => rfl
  next kind hidden _ =>
    obtain ⟨hcells, hcells₁, hcells₂⟩ := hcells hidden
    refine collect_under_parts hr hr₁ hr₂ hcells hcells₁ hcells₂ (fun _ _ => ?_) _ _
    rw [valuesOf_cutByRows hcut]

/-- A function that only counts does not notice a cut between columns either. -/
theorem ignoresCut_columns (hcut : range.CutByColumns first second) {b : Builtin}
    (hb : b ∈ counting) : e.IgnoresCut h o b [] whole ex ex' := by
  intro f before after hf
  obtain ⟨r, r₁, r₂, hr, hr₁, hr₂, hcells⟩ :=
    he.exists_parts hh hwhole hfirst hsecond hconstants (.inr hcut)
  obtain ⟨hcells, hcells₁, hcells₂⟩ := hcells true
  obtain ⟨F, hF, hperm⟩ := exists_makesOfList_perm hb
  refine he.givesSame_call hh hf ?_
  simp only [argumentsOf_eq_map, List.nil_append, List.map_append, List.map_cons]
  rw [hF, hF]
  refine collect_under_parts hr hr₁ hr₂ hcells hcells₁ hcells₂ (fun _ _ => hperm ?_) _ _
  rw [cellsToRead_all, cellsToRead_all, cellsToRead_all]
  exact ((valuesOf_cut (.inr hcut) h i).append_right _).append_left _

/-- `AND` and `OR` do not notice a cut of either kind, if all values have truth values that are not
blank. -/
theorem ignoresCut_truths (hcut : range.Cut first second)
    (hvalues : AllBoolean (valuesOf h i range.cells)) :
    e.IgnoresCut h o .conjunction [] whole ex ex' ∧
      e.IgnoresCut h o .disjunction [] whole ex ex' := by
  obtain ⟨r, r₁, r₂, hr, hr₁, hr₂, hcells⟩ :=
    he.exists_parts hh hwhole hfirst hsecond hconstants hcut
  obtain ⟨hcells, hcells₁, hcells₂⟩ := hcells true
  rw [cellsToRead_all] at hcells hcells₁ hcells₂
  have hoccurs (b : Bool) := occurs_under_parts b hr hr₁ hr₂ hcells hcells₁ hcells₂
    (valuesOf_cut hcut h i) hvalues
  constructor <;>
  · intro f before after hf
    refine he.givesSame_call hh hf ?_
    simp only [argumentsOf_eq_map, List.nil_append, List.map_append, List.map_cons, applyBuiltin,
      conjunction, disjunction, bind_eq, under_bind, hoccurs]

omit hfirst hsecond in
/-- `COUNTIF` gives how many values of a range of constants satisfy a criterion. -/
theorem countIf_constants {f : Function} (hf : f.body = .builtin .countIf) {ec : Expr} {v : Value}
    {c : Criterion}
    (hv : (e.runProgram h (o.sheet.getD h.selected)
      (argumentOf ((e.surroundings h).context o) ec).value).1 = .ok v)
    (hread : Criterion.read v = .ok c) :
    ∃ p, argumentOf ((e.surroundings h).context o) (.call f [whole, ec]) = .computed p ∧
      p.under (answers e.registry h (o.sheet.getD h.selected)) =
        .ok (.number (Float.ofNat ((valuesOf h i range.cells).countP c.holds))) := by
  obtain ⟨r, hr, hi, rfl⟩ := he.operand_under_of_isRange hh hwhole
  rw [he.runProgram hh] at hv
  have hcells := hconstants.answers_cells e.registry hi true
  rw [cellsToRead_all] at hcells
  have hvs : ∀ w ∈ valuesOf h i r.range.cells, ∀ r, w ≠ .reference r :=
    List.forall_mem_map.2 fun _ _ => ofContent_ne_reference _
  refine ⟨_, argumentOf_call hf _ _, ?_⟩
  simp only [argumentsOf, applyBuiltin]
  rw [countSelected_under_one (givesRange_of_operand hr _) hv hcells hvs, hread]
  rfl

/-- The counts of `COUNTIF` in two parts add up. -/
theorem addsCounts (hcut : range.Cut first second) (ho : o.format = none) :
    e.AddsCounts h o i range first second whole ex ex' := by
  intro f criterion v c hf hv hread
  obtain ⟨p, hp, hcount⟩ := he.countIf_constants hh hwhole hconstants hf hv hread
  obtain ⟨p₁, hp₁, hcount₁⟩ :=
    he.countIf_constants hh hfirst (hconstants.within hcut.first_within) hf hv hread
  obtain ⟨p₂, hp₂, hcount₂⟩ :=
    he.countIf_constants hh hsecond (hconstants.within hcut.second_within) hf hv hread
  have hadds := countP_cut hcut h i c.holds
  have evaluates {tree : Expr} {p : Program Value} {n : Nat}
      (hp : argumentOf ((e.surroundings h).context o) tree = .computed p)
      (hn : p.under (answers e.registry h (o.sheet.getD h.selected)) =
        .ok (.number (Float.ofNat n))) :
      e.Evaluates h o tree (.ok (.number (Float.ofNat n))) := by
    intro text htext
    rw [he.tryEvaluate_of_computed hh ho htext hp, hn]
    rfl
  refine ⟨hadds, evaluates hp₁ hcount₁, evaluates hp₂ hcount₂, evaluates hp hcount, ?_⟩
  intro hlt text text' htext htext'
  rw [he.tryEvaluate_sum hh ho htext hp₁ hp₂ hcount₁ hcount₂ (hadds.trans_lt hlt),
    evaluates hp hcount _ htext', hadds]

end AtRest

end

/-- Functions of the list of all values do not notice that a range of constants is cut between
rows, and neither does `SUBTOTAL`, whatever is hidden.  Functions that only count do not notice a
cut between columns.  For both kinds of cut, `AND` and `OR` do not notice it among truth values,
and counts by a criterion add up. -/
theorem Reached.aggregates_cut {settings : Settings} {fs : List Function} {e : Engine}
    (he : Reached settings fs e) {h : Host} (hh : h.KnowsNoNames) {o : Options} {i : Nat}
    {range first second : Range} {whole ex ex' : Expr} (hwhole : e.IsRange h o whole i range)
    (hfirst : e.IsRange h o ex i first) (hsecond : e.IsRange h o ex' i second)
    (hconstants : Constants h i range) :
    (range.CutByRows first second →
      (∀ b ∈ reducing, e.IgnoresCut h o b [] whole ex ex') ∧
        ∀ code, e.IgnoresCut h o .subtotal [code] whole ex ex') ∧
    (range.CutByColumns first second → ∀ b ∈ counting, e.IgnoresCut h o b [] whole ex ex') ∧
    (range.Cut first second →
      (AllBoolean (valuesOf h i range.cells) → e.IgnoresCut h o .conjunction [] whole ex ex' ∧
        e.IgnoresCut h o .disjunction [] whole ex ex') ∧
      (o.format = none → e.AddsCounts h o i range first second whole ex ex')) := by
  have hrest := he.atRest.1
  refine ⟨fun hcut => ⟨fun b hb => ?_, fun code => ?_⟩, fun hcut b hb => ?_, fun hcut => ⟨?_, ?_⟩⟩
  · exact hrest.ignoresCut_rows hh hwhole hfirst hsecond hconstants hcut hb
  · exact hrest.ignoresCut_subtotal hh hwhole hfirst hsecond hconstants hcut code
  · exact hrest.ignoresCut_columns hh hwhole hfirst hsecond hconstants hcut hb
  · exact hrest.ignoresCut_truths hh hwhole hfirst hsecond hconstants hcut
  · exact hrest.addsCounts hh hwhole hfirst hsecond hconstants hcut

/-- Six cells, of which one is blank and one is text.  The second row is hidden. -/
def ledger : Workbook where
  sheets := [
    { name := "a"
      cells := [
        ((0, 0), { content := .number 4.0 }), ((0, 1), { content := .boolean true }),
        ((1, 0), { content := .number 8.0 }), ((1, 1), { content := .text "true" }),
        ((2, 1), { content := .number 2.0 })]
      hiddenRows := [1] }]

/-- `SUBTOTAL` does not notice that the hidden row is the first one of the second part, `OR` and
`COUNT` do not notice that the second column is another argument, and the counts of numbers above
three add up. -/
theorem Reached.aggregates_cut_ledger :
    let e := Engine.new {}
    let result (text : String) := (e.tryEvaluate ledger.host text {}).1
    Reached {} [] e ∧ ledger.host.isRowHidden 0 1 = true ∧
      result "=SUBTOTAL(109,A1:B1,A2:B3)" = result "=SUBTOTAL(109,A1:B3)" ∧
      result "=SUBTOTAL(109,A1:B3)" = .ok (.number 6.0) ∧
      result "=COUNT(A1:A3,B1:B3)" = result "=COUNT(A1:B3)" ∧
      result "=OR(A1:A3,B1:B3)" = result "=OR(A1:B3)" ∧
      result "=COUNTIF(A1:A3,\">3\")+COUNTIF(B1:B3,\">3\")" =
        result "=COUNTIF(A1:B3,\">3\")" := by
  intro e result
  have he : Reached {} [] e := .new
  let whole : Range := { top := 0, left := 0, bottom := 2, right := 1 }
  let upper : Range := { top := 0, left := 0, bottom := 0, right := 1 }
  let lower : Range := { top := 1, left := 0, bottom := 2, right := 1 }
  let left : Range := { top := 0, left := 0, bottom := 2, right := 0 }
  let right : Range := { top := 0, left := 1, bottom := 2, right := 1 }
  let written (range : Range) : Expr := .reference ⟨range, none⟩
  have hranges (range : Range) : e.IsRange ledger.host {} (written range) 0 range :=
    ⟨_, rfl, rfl, rfl⟩
  have hconstants : Constants ledger.host 0 whole := .of_cells rfl (by decide) (by decide) (by simp)
  have htrue : ∀ v ∈ valuesOf ledger.host 0 whole.cells, v.isBlank = false →
      v.toBoolean = .ok true := by decide +kernel
  have hrows : whole.CutByRows upper lower := ⟨rfl, rfl, rfl, ⟨rfl, rfl⟩, ⟨rfl, rfl⟩⟩
  have hcolumns : whole.CutByColumns left right := ⟨rfl, rfl, rfl, ⟨rfl, rfl⟩, ⟨rfl, rfl⟩⟩
  obtain ⟨hcut, -, -⟩ := Reached.aggregates_cut he ledger.host_knowsNoNames (o := {})
    (hranges whole) (hranges upper) (hranges lower) hconstants
  obtain ⟨-, hsubtotal⟩ := hcut hrows
  obtain ⟨-, hcut, hboth⟩ := Reached.aggregates_cut he ledger.host_knowsNoNames (o := {})
    (hranges whole) (hranges left) (hranges right) hconstants
  obtain ⟨htruths, hadds⟩ := hboth (.inr hcolumns)
  obtain ⟨-, hor⟩ := htruths fun v hv hblank => ⟨true, htrue v hv hblank⟩
  have hread : Criterion.read (.text ">3") = .ok (.compare .greater "3") := by decide +kernel
  obtain ⟨-, -, -, -, hsum⟩ := hadds rfl (Builtin.function .countIf) (.literal (.text ">3")) _ _
    rfl rfl hread
  refine ⟨he, by decide +kernel, ?_, by decide +kernel, ?_, ?_, ?_⟩
  · exact hsubtotal (.literal (.number _)) (Builtin.function .subtotal) [] [] rfl _ _
      ⟨"SUBTOTAL(109,A1:B1,A2:B3)", by decide +kernel, rfl⟩
      ⟨"SUBTOTAL(109,A1:B3)", by decide +kernel, rfl⟩
  · exact hcut hcolumns .count (by decide) (Builtin.function .count) [] [] rfl _ _
      ⟨"COUNT(A1:A3,B1:B3)", by decide +kernel, rfl⟩ ⟨"COUNT(A1:B3)", by decide +kernel, rfl⟩
  · exact hor (Builtin.function .disjunction) [] [] rfl _ _
      ⟨"OR(A1:A3,B1:B3)", by decide +kernel, rfl⟩ ⟨"OR(A1:B3)", by decide +kernel, rfl⟩
  · exact hsum (by decide +kernel) _ _
      ⟨"COUNTIF(A1:A3,\">3\")+COUNTIF(B1:B3,\">3\")", by decide +kernel, rfl⟩
      ⟨"COUNTIF(A1:B3,\">3\")", by decide +kernel, rfl⟩

end Spreadsheet.Engine
