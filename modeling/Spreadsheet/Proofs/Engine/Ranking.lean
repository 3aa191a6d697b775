import Spreadsheet.Proofs.Decimal.Sorting
import Spreadsheet.Proofs.Engine.Expressions
import Spreadsheet.Proofs.Functions.Texts

/-!
# Ranks

`RANK` sorts the numbers of a list and looks for a number in it.  The place where it
is found is one more than the count of the numbers that are greater, or less in the
other order (`rank_under`).  So a rank depends on the numbers in the list and not on
their order, and numbers that are equal have the same one
(`Reached.rank_counts`).
-/

namespace Spreadsheet.Functions

open Spreadsheet.Evaluation
open Spreadsheet.Evaluation.Program
open Spreadsheet.Formula (Error)

/-- The numbers that come before another one: those that are greater, or less in the other order. -/
def countBefore (xs : List Float) (order x : Float) : Nat :=
  if order == 0.0 then xs.countP (x < ·) else xs.countP (· < x)

/-- The rank of a number among others, if it is one of them. -/
def rankResult (xs : List Float) (order x : Float) : Except Error Value :=
  if xs.any (· == x) then .ok (.number (Float.ofNat (countBefore xs order x + 1)))
  else .error (.notFound (Value.number x).asText)

variable {q : Answers} {a b : Argument} {rest : List Argument} {x order : Float} {xs : List Float}
  {vs : List Value}

theorem findIdx?_ranked (hx : x.isNaN = false) (hxs : ∀ y ∈ xs, y.isNaN = false) :
    (ranked order xs).findIdx? (· == x) =
      if xs.any (· == x) then some (countBefore xs order x) else none := by
  unfold ranked countBefore
  split
  · exact Decimal.findIdx?_descending hx hxs
  · exact Decimal.findIdx?_ascending hx hxs

theorem rank_under (ha : a.number.under q = .ok x) (hx : x.isNaN = false)
    (hb : (b.values true).under q = .ok vs)
    (horder : (optionalNumber (a :: b :: rest) 2 0.0).under q = .ok order) :
    (rank (a :: b :: rest)).under q = rankResult (Value.numbers vs) order x := by
  have hfirst : numberAt (a :: b :: rest) 0 = a.number := rfl
  have hsecond : argument (a :: b :: rest) 1 = .done b := rfl
  simp only [rank, bind_eq, hfirst, hsecond, done_bind, under_bind_of_ok ha, under_bind_of_ok hb,
    under_bind_of_ok horder,
    findIdx?_ranked hx fun y hy => Value.isNaN_of_mem_numbers hy, rankResult]
  cases (Value.numbers vs).any (· == x) <;> rfl

theorem rankResult_settled (q : Answers) (xs : List Float) (order x : Float) :
    rankResult xs order x >>= Engine.settledValue q = rankResult xs order x := by
  unfold rankResult
  split <;> rfl

/-- The order in a list does not matter. -/
theorem rankResult_perm {xs' : List Float} (h : xs'.Perm xs) (order x : Float) :
    rankResult xs' order x = rankResult xs order x := by
  have hcount : countBefore xs' order x = countBefore xs order x := by
    unfold countBefore
    rw [h.countP_eq, h.countP_eq]
  rw [rankResult, rankResult, h.any_eq, hcount]

example : rankResult [3.0, 1.0, 2.0, 3.0] 0.0 2.0 = .ok (.number 3.0) := by decide +kernel

/-- Numbers that are equal come behind the same ones. -/
theorem countBefore_of_beq {x' : Float} (hx : x.isNaN = false) (hx' : x'.isNaN = false)
    (hxs : ∀ y ∈ xs, y.isNaN = false) (h : (x' == x) = true) :
    countBefore xs order x' = countBefore xs order x := by
  unfold countBefore
  split
  · exact List.countP_congr fun y hy => by
      simpa only [decide_eq_true_eq] using (Decimal.lt_iff_of_beq hx' hx (hxs y hy) h).1
  · exact List.countP_congr fun y hy => by
      simpa only [decide_eq_true_eq] using (Decimal.lt_iff_of_beq hx' hx (hxs y hy) h).2

/-- Numbers that are equal have the same rank. -/
theorem rankResult_of_beq {x' : Float} (hx : x.isNaN = false) (hx' : x'.isNaN = false)
    (hxs : ∀ y ∈ xs, y.isNaN = false) (h : (x' == x) = true) (hany : xs.any (· == x) = true) :
    rankResult xs order x' = rankResult xs order x := by
  have hany' : xs.any (· == x') = true := by
    obtain ⟨y, hy, heq⟩ := List.any_eq_true.1 hany
    refine List.any_eq_true.2 ⟨y, hy, ?_⟩
    rw [Decimal.beq_iff_height (hxs y hy) hx', (Decimal.beq_iff_height hx' hx).1 h]
    exact (Decimal.beq_iff_height (hxs y hy) hx).1 heq
  rw [rankResult, rankResult, if_pos hany, if_pos hany', countBefore_of_beq hx hx' hxs h]

end Spreadsheet.Functions

namespace Spreadsheet.Engine

open Spreadsheet.Evaluation
open Spreadsheet.Formula (Expr Function Reference)
open Spreadsheet.Functions
open Spreadsheet.Grid (Workbook)

/-- An expression stands for a list of values, where a function takes one. -/
def IsList (e : Engine) (h : Host) (o : Options) (ex : Expr) (vs : List Value) : Prop :=
  (e.runProgram h (o.sheet.getD h.selected)
    ((argumentOf ((e.surroundings h).context o) ex).values true)).1 = .ok vs

section

variable {settings : Settings} {fs : List Function} {e : Engine} {h : Host} {o : Options}
  {f : Function} {ex er : Expr} {rest : List Expr} {x order : Float} {vs : List Value}

/-- A range stands for the values that an engine reads off it. -/
theorem AtRest.isList_iff (he : e.AtRest) (hh : h.KnowsNoNames) {r : Reference}
    (hr : (e.runProgram h (o.sheet.getD h.selected)
      (argumentOf ((e.surroundings h).context o) er).operand).1 = .ok (.range r)) :
    e.IsList h o er vs ↔ (e.rangeValues h (o.sheet.getD h.selected) r true none).1 = .ok vs := by
  rw [he.runProgram hh] at hr
  rw [IsList, he.runProgram hh, he.rangeValues hh, Argument.values, Program.bind_eq,
    Program.under_bind_of_ok hr, Program.under_cells]

/-- What stands for a number is not NaN. -/
theorem AtRest.isNaN_numberOf (he : e.AtRest) (hh : h.KnowsNoNames)
    (hx : e.numberOf h o ex = .ok x) : x.isNaN = false := by
  rw [numberOf, he.runProgram hh] at hx
  exact isNaN_of_number_under hx

theorem AtRest.resultOf_rank (he : e.AtRest) (hh : h.KnowsNoNames) (hf : f.body = .builtin .rank)
    (hx : e.numberOf h o ex = .ok x) (hvs : e.IsList h o er vs)
    (horder : e.OptionalNumber h o 0.0 rest order) :
    e.resultOf h o (.call f (ex :: er :: rest)) = rankResult (Value.numbers vs) order x := by
  have horder := he.optionalNumber_under hh horder
  rw [numberOf, he.runProgram hh] at hx
  rw [IsList, he.runProgram hh] at hvs
  rw [he.resultOf_call hh hf]
  refine (congrArg (· >>= _) (rank_under hx (isNaN_of_number_under hx) hvs (horder _ _))).trans ?_
  exact rankResult_settled _ _ _ _

/-- The rank of a number in a list is one more than the count of the entries that are greater, or
less in the other order.  A number that is not in the list has none.  So equal entries share a rank,
and a list with the same entries in another order, also of another workbook, gives the same. -/
theorem Reached.rank_counts (he : Reached settings fs e) (hh : h.KnowsNoNames)
    (hf : f.body = .builtin .rank) (hx : e.numberOf h o ex = .ok x) (hvs : e.IsList h o er vs)
    (horder : e.OptionalNumber h o 0.0 rest order) :
    let xs := Value.numbers vs
    let result (ex er : Expr) := e.resultOf h o (.call f (ex :: er :: rest))
    ((∃ y ∈ xs, (y == x) = true) →
      ((order == 0.0) = true →
        result ex er = .ok (.number (Float.ofNat (1 + xs.countP (x < ·))))) ∧
      ((order == 0.0) = false →
        result ex er = .ok (.number (Float.ofNat (1 + xs.countP (· < x))))) ∧
      (∀ ex' x', e.numberOf h o ex' = .ok x' → (x' == x) = true →
        result ex' er = result ex er)) ∧
    ((¬ ∃ y ∈ xs, (y == x) = true) →
      result ex er = .error (.notFound (Value.number x).asText)) ∧
    (∀ h' er' vs', h'.KnowsNoNames → e.numberOf h' o ex = .ok x →
      e.OptionalNumber h' o 0.0 rest order → e.IsList h' o er' vs' → vs'.Perm vs →
      e.resultOf h' o (.call f (ex :: er' :: rest)) = result ex er) := by
  intro xs result
  have hresult : result ex er = rankResult xs order x :=
    he.atRest.1.resultOf_rank hh hf hx hvs horder
  have hany : (∃ y ∈ xs, (y == x) = true) ↔ xs.any (· == x) = true := List.any_eq_true.symm
  refine ⟨fun hmem => ?_, fun hmem => ?_, fun h' er' vs' hh' hx' horder' hvs' hperm => ?_⟩
  · have hrank : result ex er = .ok (.number (Float.ofNat (1 + countBefore xs order x))) := by
      rw [hresult, rankResult, if_pos (hany.1 hmem), Nat.add_comm]
    refine ⟨fun hzero => ?_, fun hzero => ?_, fun ex' x' hx' heq => ?_⟩
    · rw [hrank, countBefore, if_pos hzero]
    · rw [hrank, countBefore, if_neg (Bool.eq_false_iff.1 hzero)]
    · rw [hresult, ← rankResult_of_beq (he.atRest.1.isNaN_numberOf hh hx)
        (he.atRest.1.isNaN_numberOf hh hx') (fun y hy => Value.isNaN_of_mem_numbers hy) heq
        (hany.1 hmem)]
      exact he.atRest.1.resultOf_rank hh hf hx' hvs horder
  · rw [hresult, rankResult, if_neg (fun h => hmem (hany.2 h))]
  · have hnumbers : (Value.numbers vs').Perm xs := hperm.filterMap _
    rw [hresult, ← rankResult_perm hnumbers]
    exact he.atRest.1.resultOf_rank hh' hf hx' hvs' horder'

end

/-- Numbers among other values, in a column. -/
def rankedColumn : Workbook where
  sheets := [
    { name := "a"
      cells := [
        ((0, 0), { content := .number 3.0 }), ((1, 0), { content := .text " 1 " }),
        ((2, 0), { content := .date ⟨⟨3⟩, 0, 0⟩ }), ((3, 0), { content := .boolean true }),
        ((4, 0), { content := .number (-0.0) }), ((5, 0), { content := .number 5.0 }),
        ((6, 0), { content := .number 0.0 })] }]

/-- Two entries are three, and two are zero with different signs.  Just five is greater than three,
and just one and the zeros are less. -/
theorem Reached.rank_counts_column :
    let e := Engine.new {}
    let h := rankedColumn.host
    Reached {} [] e ∧
      (e.tryEvaluate h "=RANK(3,A1:A8)" {}).1 = .ok (.number 2.0) ∧
      (e.tryEvaluate h "=RANK(3,A1:A8,1)" {}).1 = .ok (.number 4.0) ∧
      (e.tryEvaluate h "=RANK(0,A1:A8)" {}).1 = .ok (.number 5.0) ∧
      (e.tryEvaluate h "=RANK(2,A1:A8)" {}).1 = .error (.notFound "2") := by
  intro e h
  have he : Reached {} [] e := .new
  have hh : h.KnowsNoNames := rankedColumn.host_knowsNoNames
  let f : Function := Formula.Builtin.function .rank
  let r : Reference := ⟨{ top := 0, left := 0, bottom := 7, right := 0 }, none⟩
  let column : Expr := .reference r
  let call (x : Float) (rest : List Expr) : Expr := .call f (.literal (.number x) :: column :: rest)
  have hthree : treesOf .standard "=RANK(3,A1:A8)" (call 3.0 []) := ⟨"RANK(3,A1:A8)", rfl, rfl⟩
  have hup : treesOf .standard "=RANK(3,A1:A8,1)" (call 3.0 [.literal (.number 1.0)]) :=
    ⟨"RANK(3,A1:A8,1)", rfl, rfl⟩
  have hzero : treesOf .standard "=RANK(0,A1:A8)" (call 0.0 []) := ⟨"RANK(0,A1:A8)", rfl, rfl⟩
  have htwo : treesOf .standard "=RANK(2,A1:A8)" (call 2.0 []) := ⟨"RANK(2,A1:A8)", rfl, rfl⟩
  let vs : List Value := [
    .number 3.0, .text " 1 ", .date ⟨⟨3⟩, 0, 0⟩, .boolean true, .number (-0.0), .number 5.0,
    .number 0.0, .empty]
  have hvs : e.IsList h {} column vs := (he.atRest.1.isList_iff hh (r := r) rfl).2 rfl
  have hnumbers : Value.numbers vs = [3.0, 1.0, 3.0, -0.0, 5.0, 0.0] := by decide +kernel
  have hf : f.body = .builtin .rank := rfl
  have hliteral {x : Float} (hx : x.isNaN = false) : e.numberOf h {} (.literal (.number x)) = .ok x :=
    numberOf_literal hx
  have hdown : e.OptionalNumber h {} 0.0 [] 0.0 := rfl
  have hother : e.OptionalNumber h {} 0.0 [.literal (.number 1.0)] 1.0 :=
    hliteral (by decide +kernel)
  have hgives {text : String} {tree : Expr} (htext : treesOf .standard text tree) :
      (e.tryEvaluate h text {}).1 = e.resultOf h {} tree := by
    rw [he.atRest.1.tryEvaluate_eq_resultOf hh htext, map_formatted_none]
  refine ⟨he, ?_, ?_, ?_, ?_⟩
  · obtain ⟨hfound, -, -⟩ := Reached.rank_counts he hh hf
      (hliteral (x := 3.0) (by decide +kernel)) hvs hdown
    rw [hnumbers] at hfound
    rw [hgives hthree]
    exact ((hfound (by decide +kernel)).1 (by decide +kernel)).trans (by decide +kernel)
  · obtain ⟨hfound, -, -⟩ := Reached.rank_counts he hh hf
      (hliteral (x := 3.0) (by decide +kernel)) hvs hother
    rw [hnumbers] at hfound
    rw [hgives hup]
    exact ((hfound (by decide +kernel)).2.1 (by decide +kernel)).trans (by decide +kernel)
  · obtain ⟨hfound, -, -⟩ := Reached.rank_counts he hh hf
      (hliteral (x := 0.0) (by decide +kernel)) hvs hdown
    rw [hnumbers] at hfound
    rw [hgives hzero]
    exact ((hfound (by decide +kernel)).1 (by decide +kernel)).trans (by decide +kernel)
  · obtain ⟨-, hmissing, -⟩ := Reached.rank_counts he hh hf
      (hliteral (x := 2.0) (by decide +kernel)) hvs hdown
    rw [hnumbers] at hmissing
    rw [hgives htwo]
    exact (hmissing (by decide +kernel)).trans (by decide +kernel)

end Spreadsheet.Engine
