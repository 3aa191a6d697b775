import Spreadsheet.Proofs.Engine.Constants
import Spreadsheet.Proofs.Functions.Selections
import Spreadsheet.Proofs.Grid.Storage

/-!
# Counting by several criteria

`COUNTIFS` counts the places where every range satisfies its criterion, place
by place in the order of the cells (`Reached.countIfs_conjunction`).  So only
the set of its tests matters, and a test more can only lower the count.  Ranges
of several shapes are refused with two of them that differ.
-/

namespace Spreadsheet.Engine

open Spreadsheet.Evaluation
open Spreadsheet.Evaluation.Program
open Spreadsheet.Formula (Error Expr Function Reference)
open Spreadsheet.Functions
open Spreadsheet.Grid (Range Workbook)
open Spreadsheet.Value (Criterion)

/-! ## Tests of constants -/

/-- The value of the cell of a range that `k` others precede, row by row. -/
def placeValue (h : Host) (i : Nat) (range : Range) (k : Nat) : Value :=
  .ofContent (h.content i (range.cell k).1 (range.cell k).2)

theorem valuesOf_cells (h : Host) (i : Nat) (range : Range) :
    valuesOf h i range.cells =
      (List.range (range.rows * range.columns)).map (placeValue h i range) := by
  rw [valuesOf, Range.cells_eq, List.map_map]
  rfl

/-- No constant is a reference. -/
theorem ofContent_ne_reference (content : Grid.Content) (r : Reference) :
    Value.ofContent content ≠ .reference r := by
  cases content <;> exact nofun

/-- A criterion for the cells of a range on a sheet. -/
structure RangeTest where
  /-- The sheet. -/
  sheet : Nat
  /-- The range. -/
  range : Range
  /-- The criterion. -/
  criterion : Criterion

/-- Whether the cell that `k` others precede satisfies the criterion. -/
def RangeTest.passes (t : RangeTest) (h : Host) (k : Nat) : Bool :=
  t.criterion.holds (placeValue h t.sheet t.range k)

/-- How many of the first `n` places pass all tests. -/
def countPassing (h : Host) (tests : List RangeTest) (n : Nat) : Nat :=
  (List.range n).countP fun k => tests.all fun t => t.passes h k

/-- A range with the value of its criterion is a test of constants in so many rows and columns. -/
structure MakesTest (h : Host) (base rows columns : Nat) (p : Reference × Value)
    (t : RangeTest) : Prop where
  /-- The range is on the sheet. -/
  sheetOf : sheetOf h base p.1 = .ok t.sheet
  /-- The cells are those of the range. -/
  range : p.1.range = t.range
  /-- The criterion is read off the value. -/
  criterion : Criterion.read p.2 = .ok t.criterion
  /-- The cells are constants. -/
  constants : Constants h t.sheet t.range
  /-- The range has so many rows. -/
  rows : t.range.rows = rows
  /-- The range has so many columns. -/
  columns : t.range.columns = columns

/-- Fewer places pass more tests. -/
theorem countPassing_anti {h : Host} {tests tests' : List RangeTest} (hsub : tests ⊆ tests')
    (n : Nat) : countPassing h tests' n ≤ countPassing h tests n := by
  refine List.countP_mono_left fun k _ hk => ?_
  rw [List.all_eq_true] at hk ⊢
  exact fun t ht => hk t (hsub ht)

/-- Which tests there are is all that counts. -/
theorem countPassing_congr {h : Host} {tests tests' : List RangeTest} (hsub : tests ⊆ tests')
    (hsub' : tests' ⊆ tests) (n : Nat) : countPassing h tests' n = countPassing h tests n :=
  Nat.le_antisymm (countPassing_anti hsub n) (countPassing_anti hsub' n)

section

variable {h : Host} {base rows columns : Nat} {p : Reference × Value} {t : RangeTest}
  {ps : List (Reference × Value)} {tests : List RangeTest}

/-- A test of constants flags the places that pass it. -/
theorem MakesTest.flagged (ht : MakesTest h base rows columns p t) (registry : Formula.Registry) :
    Flagged (answers registry h base) (rows * columns) (p.1, t.criterion) (t.passes h) := by
  have hconstants : Constants h t.sheet p.1.range := by
    rw [ht.range]
    exact ht.constants
  have hcells : (answers registry h base).cells p.1 true =
      .ok ((List.range (rows * columns)).map (placeValue h t.sheet t.range)) := by
    rw [hconstants.answers_cells registry ht.sheetOf, cellsToRead_all, ht.range, valuesOf_cells,
      ht.rows, ht.columns]
  exact .of_values hcells fun k _ => ofContent_ne_reference _

/-- Tests of constants are read and flag the places that pass them. -/
theorem exists_flagged (hps : List.Forall₂ (MakesTest h base rows columns) ps tests)
    (registry : Formula.Registry) :
    ∃ read, List.Forall₂ ReadAs ps read ∧
      List.Forall₂ (Flagged (answers registry h base) (rows * columns)) read
        (tests.map fun t => t.passes h) := by
  induction hps with
  | nil => exact ⟨[], .nil, .nil⟩
  | @cons p t ps tests ht _ ih =>
    obtain ⟨read, hread, hflags⟩ := ih
    exact ⟨(p.1, t.criterion) :: read, .cons ⟨rfl, ht.criterion⟩ hread,
      .cons (ht.flagged registry) hflags⟩

/-- The ranges of tests have their rows and columns. -/
theorem shape_of_makesTest (hps : List.Forall₂ (MakesTest h base rows columns) ps tests) :
    ∀ r ∈ ps.map (·.1), r.range.rows = rows ∧ r.range.columns = columns := by
  induction hps with
  | nil => exact nofun
  | cons ht _ ih =>
    exact List.forall_mem_cons.2 ⟨⟨ht.range ▸ ht.rows, ht.range ▸ ht.columns⟩, ih⟩

end

/-! ## Engines -/

/-- Expressions give a function ranges and the values of their criteria in turn. -/
def GivesPairs (e : Engine) (h : Host) (o : Options) (function : String) (es : List Expr)
    (ps : List (Reference × Value)) : Prop :=
  Paired
    (fun ex r => (e.runProgram h (o.sheet.getD h.selected)
      ((argumentOf ((e.surroundings h).context o) ex).reference function)).1 = .ok r)
    (fun ex v => (e.runProgram h (o.sheet.getD h.selected)
      (argumentOf ((e.surroundings h).context o) ex).value).1 = .ok v) es ps

/-- A tree is a call of `COUNTIFS` with ranges and the values of their criteria. -/
def IsCountIfs (e : Engine) (h : Host) (o : Options) (tree : Expr)
    (ps : List (Reference × Value)) : Prop :=
  ∃ f es, tree = .call f es ∧ f.body = .builtin .countIfs ∧ ps ≠ [] ∧
    e.GivesPairs h o "COUNTIFS" es ps

/-- A formula is a call of `COUNTIFS` with tests of constants in so many rows and columns. -/
def Conjoins (e : Engine) (h : Host) (o : Options) (rows columns : Nat) (text : String)
    (tests : List RangeTest) : Prop :=
  ∃ tree ps, treesOf e.registry text tree ∧ e.IsCountIfs h o tree ps ∧
    List.Forall₂ (MakesTest h (o.sheet.getD h.selected) rows columns) ps tests

section

variable {e : Engine} {h : Host} {o : Options} {tree : Expr} {text text' : String}
  {ps : List (Reference × Value)} {rows columns : Nat} {tests tests' : List RangeTest}

namespace AtRest

variable (he : e.AtRest) (hh : h.KnowsNoNames)
include he hh

/-- The arguments of a call give what its expressions give. -/
theorem paired_arguments {function : String} {es : List Expr}
    (hps : e.GivesPairs h o function es ps) :
    Paired (GivesRange (answers e.registry h (o.sheet.getD h.selected)) function)
      (GivesValue (answers e.registry h (o.sheet.getD h.selected)))
      (argumentsOf ((e.surroundings h).context o) es) ps := by
  rw [argumentsOf_eq_map]
  refine hps.map (fun hr => ?_) fun hv => ?_
  · rwa [he.runProgram hh] at hr
  · rwa [he.runProgram hh] at hv

/-- `COUNTIFS` counts what the selection by its pairs gives. -/
theorem tryEvaluate_countIfs (ho : o.format = none) (htext : treesOf e.registry text tree)
    (hcount : e.IsCountIfs h o tree ps) :
    ∃ arguments,
      Paired (GivesRange (answers e.registry h (o.sheet.getD h.selected)) "COUNTIFS")
        (GivesValue (answers e.registry h (o.sheet.getD h.selected))) arguments ps ∧
      (e.tryEvaluate h text o).1 =
        ((selection "COUNTIFS" arguments none).under
          (answers e.registry h (o.sheet.getD h.selected))).map fun flags =>
            .number (Float.ofNat (flags.countP id)) := by
  obtain ⟨f, es, rfl, hf, -, hps⟩ := hcount
  refine ⟨_, he.paired_arguments hh hps, ?_⟩
  rw [he.tryEvaluate_of_call hh hf htext ho, applyBuiltin, countSelected_under]
  cases Program.under _ (selection _ _ _) <;> rfl

/-- A call of `COUNTIFS` gives how many places pass all tests. -/
theorem tryEvaluate_conjoins (ho : o.format = none)
    (htext : e.Conjoins h o rows columns text tests) :
    (e.tryEvaluate h text o).1 =
      .ok (.number (Float.ofNat (countPassing h tests (rows * columns)))) := by
  obtain ⟨tree, ps, htree, hcount, htests⟩ := htext
  obtain ⟨arguments, hpaired, hresult⟩ := he.tryEvaluate_countIfs hh ho htree hcount
  obtain ⟨-, -, -, -, hne, -⟩ := hcount
  obtain ⟨read, hread, hflags⟩ := exists_flagged htests e.registry
  have hshape : ∀ r ∈ ps.map (·.1) ++ (none : Option Reference).toList,
      r.range.rows = rows ∧ r.range.columns = columns := by
    simpa using shape_of_makesTest htests
  rw [hresult, selection_under_eq_ok hpaired hne hread (sameShape_of_forall hshape) hflags]
  simp only [Except.map, List.countP_map, List.all_map, countPassing]
  rfl

end AtRest

end

/-- `COUNTIFS` counts the places where the cells of all ranges satisfy their criteria.  Which tests
there are is all that counts, and with more of them it gives no more.  Ranges of several shapes are
refused. -/
theorem Reached.countIfs_conjunction {settings : Settings} {fs : List Function} {e : Engine}
    (he : Reached settings fs e) {h : Host} (hh : h.KnowsNoNames) {o : Options}
    (ho : o.format = none) :
    (∀ {rows columns : Nat} {text : String} {tests : List RangeTest},
      e.Conjoins h o rows columns text tests →
      (e.tryEvaluate h text o).1 =
        .ok (.number (Float.ofNat (countPassing h tests (rows * columns)))) ∧
      ∀ {text' : String} {tests' : List RangeTest}, e.Conjoins h o rows columns text' tests' →
        tests ⊆ tests' →
        countPassing h tests' (rows * columns) ≤ countPassing h tests (rows * columns) ∧
        (e.tryEvaluate h text' o).1 =
          .ok (.number (Float.ofNat (countPassing h tests' (rows * columns)))) ∧
        (tests' ⊆ tests → (e.tryEvaluate h text' o).1 = (e.tryEvaluate h text o).1)) ∧
    (∀ {text : String} {tree : Expr} {ps : List (Reference × Value)},
      treesOf e.registry text tree → e.IsCountIfs h o tree ps →
      (∀ p ∈ ps, ∃ c, Criterion.read p.2 = .ok c) →
      (∃ p ∈ ps, ∃ p' ∈ ps, ¬ SameShape p.1 p'.1) →
      ∃ p ∈ ps, ∃ p' ∈ ps, ¬ SameShape p'.1 p.1 ∧ (e.tryEvaluate h text o).1 =
        .error (.argument (.unequalRanges "COUNTIFS" p.1.text p'.1.text))) := by
  have hrest := he.atRest.1
  refine ⟨fun htext => ⟨hrest.tryEvaluate_conjoins hh ho htext, fun htext' hsub => ?_⟩, ?_⟩
  · rw [hrest.tryEvaluate_conjoins hh ho htext, hrest.tryEvaluate_conjoins hh ho htext']
    refine ⟨countPassing_anti hsub _, rfl, fun hsub' => ?_⟩
    rw [countPassing_congr hsub hsub']
  · intro text tree ps htree hcount hread hshape
    obtain ⟨arguments, hpaired, hresult⟩ := hrest.tryEvaluate_countIfs hh ho htree hcount
    obtain ⟨-, -, -, -, hne, -⟩ := hcount
    obtain ⟨read, hread⟩ := exists_readAs hread
    have hranges : ∃ r ∈ ps.map (·.1) ++ (none : Option Reference).toList,
        ∃ r' ∈ ps.map (·.1) ++ (none : Option Reference).toList, ¬ SameShape r r' := by
      obtain ⟨p, hp, p', hp', hnot⟩ := hshape
      exact ⟨p.1, by simpa using ⟨_, hp⟩, p'.1, by simpa using ⟨_, hp'⟩, hnot⟩
    obtain ⟨r, hr, r', hr', hnot, herror⟩ := selection_under_eq_error hpaired hne hread hranges
    simp only [Option.toList_none, List.append_nil, List.mem_map] at hr hr'
    obtain ⟨p, hp, rfl⟩ := hr
    obtain ⟨p', hp', rfl⟩ := hr'
    refine ⟨p, hp, p', hp', hnot, ?_⟩
    rw [hresult, herror]
    rfl

/-- Fruits with their prices, and on a second sheet with the shops that sell them. -/
def prices : Workbook where
  sheets := [
    { name := "a"
      cells := [
        ((0, 0), { content := .text "apple" }), ((0, 1), { content := .number 2.0 }),
        ((1, 0), { content := .text "Pear" }), ((1, 1), { content := .number 3.0 }),
        ((2, 0), { content := .text "Apple" }), ((2, 1), { content := .number 3.0 })] },
    { name := "b"
      cells := [
        ((4, 3), { content := .text "north" }), ((5, 3), { content := .text "north" }),
        ((6, 3), { content := .text "south" })] }]

/-- Two apples are there, one of them in the north, and a range of two rows is refused beside one of
three. -/
theorem Reached.countIfs_conjunction_prices :
    let e := Engine.new {}
    let result (text : String) := (e.tryEvaluate prices.host text {}).1
    let fruit : RangeTest :=
      ⟨0, { top := 0, left := 0, bottom := 2, right := 0 }, .compare .equal "apple"⟩
    let shop : RangeTest :=
      ⟨1, { top := 4, left := 3, bottom := 6, right := 3 }, .compare .equal "north"⟩
    Reached {} [] e ∧
      e.Conjoins prices.host {} 3 1 "=COUNTIFS(A1:A3,\"apple\")" [fruit] ∧
      e.Conjoins prices.host {} 3 1 "=COUNTIFS(b!D5:D7,\"north\",A1:A3,\"apple\")" [shop, fruit] ∧
      result "=COUNTIFS(A1:A3,\"apple\")" =
        .ok (.number (Float.ofNat (countPassing prices.host [fruit] 3))) ∧
      result "=COUNTIFS(b!D5:D7,\"north\",A1:A3,\"apple\")" =
        .ok (.number (Float.ofNat (countPassing prices.host [shop, fruit] 3))) ∧
      countPassing prices.host [shop, fruit] 3 ≤ countPassing prices.host [fruit] 3 ∧
      countPassing prices.host [shop, fruit] 3 = 1 ∧ countPassing prices.host [fruit] 3 = 2 ∧
      ∃ fault, result "=COUNTIFS(A1:A3,\"apple\",B1:B2,3)" = .error (.argument fault) := by
  intro e result fruit shop
  have he : Reached {} [] e := .new
  obtain ⟨hcount, hrefused⟩ :=
    Reached.countIfs_conjunction he prices.host_knowsNoNames (o := {}) rfl
  let fruits : Reference := ⟨{ top := 0, left := 0, bottom := 2, right := 0 }, none⟩
  let shops : Reference := ⟨{ top := 4, left := 3, bottom := 6, right := 3 }, some "b"⟩
  let costs : Reference := ⟨{ top := 0, left := 1, bottom := 1, right := 1 }, none⟩
  have hfruit : MakesTest prices.host 0 3 1 (fruits, .text "apple") fruit :=
    ⟨rfl, rfl, by decide +kernel, .of_cells rfl (by decide) (by decide) (by simp), rfl, rfl⟩
  have hshop : MakesTest prices.host 0 3 1 (shops, .text "north") shop :=
    ⟨by decide +kernel, rfl, by decide +kernel, .of_cells rfl (by decide) (by decide) (by simp),
      rfl, rfl⟩
  have hone : e.Conjoins prices.host {} 3 1 "=COUNTIFS(A1:A3,\"apple\")" [fruit] := by
    refine ⟨.call (Formula.Builtin.function .countIfs)
        [.reference fruits, .literal (.text "apple")], _,
      ⟨"COUNTIFS(A1:A3,\"apple\")", by decide +kernel, rfl⟩, ⟨_, _, rfl, rfl, ?_, ?_⟩,
      .cons hfruit .nil⟩
    · exact List.cons_ne_nil _ _
    · exact .cons rfl rfl .nil
  have htwo : e.Conjoins prices.host {} 3 1 "=COUNTIFS(b!D5:D7,\"north\",A1:A3,\"apple\")"
      [shop, fruit] := by
    refine ⟨.call (Formula.Builtin.function .countIfs) [.reference shops, .literal (.text "north"),
        .reference fruits, .literal (.text "apple")], _,
      ⟨"COUNTIFS(b!D5:D7,\"north\",A1:A3,\"apple\")", by decide +kernel, rfl⟩,
      ⟨_, _, rfl, rfl, ?_, ?_⟩, .cons hshop (.cons hfruit .nil)⟩
    · exact List.cons_ne_nil _ _
    · exact .cons rfl rfl (.cons rfl rfl .nil)
  have hthree : ∃ fault, result "=COUNTIFS(A1:A3,\"apple\",B1:B2,3)" =
      .error (.argument fault) := by
    have htree : treesOf e.registry "=COUNTIFS(A1:A3,\"apple\",B1:B2,3)"
        (.call (Formula.Builtin.function .countIfs) [.reference fruits, .literal (.text "apple"),
          .reference costs, .literal (.number 3.0)]) :=
      ⟨"COUNTIFS(A1:A3,\"apple\",B1:B2,3)", by decide +kernel, rfl⟩
    have hread : ∀ p ∈ [(fruits, Value.text "apple"), (costs, .number 3.0)],
        ∃ c, Criterion.read p.2 = .ok c :=
      List.forall_mem_cons.2 ⟨⟨.compare .equal "apple", by decide +kernel⟩,
        List.forall_mem_singleton.2 ⟨.compare .equal "3", by decide +kernel⟩⟩
    have hshape : ¬ SameShape fruits costs := fun h => absurd h.1 (by decide)
    obtain ⟨_, _, _, _, _, herror⟩ := hrefused htree
      ⟨_, _, rfl, rfl, List.cons_ne_nil _ _, .cons rfl rfl (.cons rfl rfl .nil)⟩ hread
      ⟨_, List.mem_cons_self, _, List.mem_cons_of_mem _ List.mem_cons_self, hshape⟩
    exact ⟨_, herror⟩
  obtain ⟨hfirst, hmore⟩ := hcount hone
  obtain ⟨hless, hsecond, -⟩ := hmore htwo (by simp)
  exact ⟨he, hone, htwo, hfirst, hsecond, hless, by decide +kernel, by decide +kernel, hthree⟩

end Spreadsheet.Engine
