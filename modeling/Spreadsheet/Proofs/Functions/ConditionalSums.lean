import Spreadsheet.Functions.Statistics
import Spreadsheet.Proofs.Decimal.Zeros
import Spreadsheet.Proofs.Functions.Selections
import Spreadsheet.Proofs.Value.Defined

/-!
# Sums of selected values

A sum over selected places adds up what the values there count as numbers
(`sumSelected_under`), while a sum of values adds up the numbers among them
(`aggregate_sum_under`).  Two kinds of values make a difference.  A truth value
counts 1 or 0 and is no number among values, and what is blank counts zero and
is no number either.  Zeros do not change a sum.  So the two give the same
number for values of which the truth values are replaced by what they count
(`sameNumber_total`).
-/

namespace Spreadsheet.Value

open Spreadsheet.Decimal (SameNumber SameNumber.foldl_filterMap)
open Spreadsheet.Text (trim)

/-! ## Values -/

/-- What a value adds to a sum over selected places, unless it counts NaN. -/
def addend? (v : Value) : Option Float :=
  if v.toNumber.isNaN then none else some v.toNumber

/-- A truth value as the number that it counts.  Other values stay as they are. -/
def counted (v : Value) : Value :=
  match v.raw with
  | .boolean b => .number (if b then 1.0 else 0.0)
  | _ => v

theorem addend?_of_isNaN {v : Value} (h : v.toNumber.isNaN = true) : v.addend? = none := if_pos h

theorem addend?_of_defined {v : Value} (h : v.toNumber.isNaN = false) :
    v.addend? = some v.toNumber := if_neg (Bool.eq_false_iff.1 h)

/-- The numbers that are added up, without NaN. -/
theorem filter_map_toNumber (vs : List Value) :
    (vs.map toNumber).filter (fun x => !x.isNaN) = vs.filterMap addend? := by
  induction vs with
  | nil => rfl
  | cons v vs ih =>
    rw [List.map_cons]
    cases hv : v.toNumber.isNaN with
    | true =>
      rw [List.filter_cons, hv, List.filterMap_cons_none (addend?_of_isNaN hv), ← ih]
      rfl
    | false =>
      rw [List.filter_cons, hv, List.filterMap_cons_some (addend?_of_defined hv), ← ih]
      rfl

/-- What a text adds is the number that it reads as, or zero when it is blank. -/
theorem addend?_text {v : Value} {s : String} (hv : v.raw = .text s) :
    v.addend? = readNumber? (trim s) ∨ (v.addend? = some 0.0 ∧ readNumber? (trim s) = none) := by
  have hnumber : v.toNumber = numberOfText s := by rw [toNumber, hv]
  unfold numberOfText at hnumber
  dsimp only at hnumber
  split at hnumber
  next hempty =>
    have hnone : readNumber? (trim s) = none := by
      rw [String.isEmpty_iff.1 hempty]
      rfl
    refine .inr ⟨?_, hnone⟩
    rw [addend?_of_defined (by rw [hnumber]; decide), hnumber]
  next =>
    cases hread : readNumber? (trim s) with
    | none =>
      rw [hread] at hnumber
      exact .inl (addend?_of_isNaN (by rw [hnumber]; decide +kernel))
    | some x =>
      rw [hread] at hnumber
      rw [addend?_of_defined (by rw [hnumber]; exact isNaN_of_readNumber hread), hnumber]
      exact .inl rfl

/-- What a value adds is the number that it contributes to a list, with truth values counted.
Otherwise it adds zero and contributes nothing. -/
theorem addend?_cases (v : Value) :
    v.addend? = entryNumber? v.counted ∨
      ∃ z, v.addend? = some z ∧ (z == 0.0) = true ∧ entryNumber? v.counted = none := by
  cases hv : v.raw with
  | empty =>
    have hnumber : v.toNumber = 0.0 := by rw [toNumber, hv]
    refine .inr ⟨0.0, ?_, by decide, by rw [counted, hv, entryNumber?, hv]⟩
    rw [addend?_of_defined (by rw [hnumber]; decide), hnumber]
  | number x =>
    have hnumber : v.toNumber = x := by rw [toNumber, hv]
    refine .inl ?_
    rw [addend?, hnumber, counted, hv, entryNumber?, hv]
  | boolean b =>
    have hnumber : v.toNumber = if b then 1.0 else 0.0 := by rw [toNumber, hv]
    refine .inl ?_
    rw [addend?, hnumber, counted, hv]
    rfl
  | text s =>
    have hentry : entryNumber? v.counted = readNumber? (trim s) := by
      rw [counted, hv, entryNumber?, hv]
    rw [hentry]
    exact (addend?_text hv).imp_right fun h => ⟨0.0, h.1, by decide, h.2⟩
  | date m =>
    have hnumber : v.toNumber = m.serial := by rw [toNumber, hv]
    refine .inl ?_
    rw [addend?_of_defined (by rw [hnumber]; exact m.isNaN_serial), hnumber, counted, hv,
      entryNumber?, hv]
  | formatted w format =>
    have hnumber : v.toNumber = nan := by rw [toNumber, hv]
    refine .inl ?_
    rw [addend?_of_isNaN (by rw [hnumber]; decide +kernel), counted, hv, entryNumber?, hv]
  | reference r =>
    have hnumber : v.toNumber = nan := by rw [toNumber, hv]
    refine .inl ?_
    rw [addend?_of_isNaN (by rw [hnumber]; decide +kernel), counted, hv, entryNumber?, hv]

/-- Values add up to the same number as the numbers among them do, with truth values counted. -/
theorem sameNumber_total (vs : List Value) :
    SameNumber (total ((vs.map toNumber).filter fun x => !x.isNaN))
      (total (numbers (vs.map counted))) := by
  rw [filter_map_toNumber, numbers, List.filterMap_map]
  exact SameNumber.foldl_filterMap (fun v _ => v.addend?_cases) (.inl rfl)

end Spreadsheet.Value

namespace Spreadsheet.Functions

open Spreadsheet.Evaluation (Answers Argument)
open Spreadsheet.Evaluation.Program
open Spreadsheet.Formula (Error Reference)
open Spreadsheet.Value (allDates momentOrNumber numbers total)

/-! ## Functions -/

variable {q : Answers} {a b c : Argument} {arguments : List Argument} {r s : Reference}
  {vs : List Value}

/-- A sum over selected places adds up what the values there count, without NaN. -/
theorem sumSelected_under {n : Nat} {value : Nat → Value} {flag : Nat → Bool}
    (hcells : q.cells s true = .ok ((List.range n).map value)) :
    (sumSelected s ((List.range n).map flag)).under q =
      .ok (.number (total (((((List.range n).filter flag).map value).map Value.toNumber).filter
        fun x => !x.isNaN))) := by
  have hread : (cells s true).under q = .ok ((List.range n).map value) :=
    (under_cells q s true).trans hcells
  have hzip : ((List.range n).map value).zip ((List.range n).map flag) =
      (List.range n).map fun i => (value i, flag i) := List.zip_map'
  have hchosen : ((List.range n).map fun i => (value i, flag i)).filter (·.2) =
      ((List.range n).filter flag).map fun i => (value i, flag i) := List.filter_map
  rw [sumSelected, bind_eq, under_bind_of_ok hread, hzip, hchosen, List.map_map, List.map_map]
  rfl

/-- `SUMIF` finds the range to add up before it selects. -/
theorem sumIf_under (hc : GivesRange q "SUMIF" c s) :
    (sumIf [a, b, c]).under q =
      (selection "SUMIF" [a, b] (some s)).under q >>= fun flags =>
        (sumSelected s flags).under q := by
  have hpairs : entriesBefore [a, b, c] 2 = .done [a, b] := rfl
  simp only [sumIf, List.getElem?_cons_succ, List.getElem?_cons_zero, bind_eq, hpairs, done_bind]
  rw [under_bind_of_ok hc, under_bind]

/-- `SUMIFS` finds the range to add up before it selects. -/
theorem sumIfs_under (hc : GivesRange q "SUMIFS" c s) :
    (sumIfs (c :: arguments)).under q =
      (selection "SUMIFS" arguments (some s)).under q >>= fun flags =>
        (sumSelected s flags).under q := by
  have hfirst : Evaluation.argument (c :: arguments) 0 = .done c := rfl
  have hpairs : entriesFrom (c :: arguments) 1 = .done arguments :=
    if_pos (Nat.succ_le_succ (Nat.zero_le _))
  simp only [sumIfs, bind_eq, hfirst, hpairs, done_bind]
  rw [under_bind_of_ok hc, under_bind]

/-- A sum of values is the number that the numbers among them add up to, or the moment that it
stands for where they are all moments. -/
theorem aggregate_sum_under (hvs : (collect true arguments).under q = .ok vs) :
    (aggregate .sum arguments).under q =
      .ok (momentOrNumber (allDates vs) (total (numbers vs))) := by
  rw [aggregate, bind_eq, under_bind_of_ok hvs, under_ofExcept]
  rfl

/-- An argument that is a range for a function is one as an operand. -/
theorem operand_under {function : String} (ha : GivesRange q function a r) :
    a.operand.under q = .ok (.range r) := by
  unfold GivesRange Argument.reference at ha
  rw [bind_eq, under_bind] at ha
  obtain ⟨op, hop, hr⟩ := bind_eq_ok.1 ha
  rw [hop]
  cases op with
  | range r' =>
    cases hr
    rfl
  | value v => cases hr

/-- A range as the only argument is collected as its values. -/
theorem collect_under_range {function : String} (ha : GivesRange q function a r)
    (hcells : q.cells r true = .ok vs) : (collect true [a]).under q = .ok vs := by
  have hvalues : (a.values true).under q = .ok vs := by
    rw [Argument.values, bind_eq, under_bind_of_ok (operand_under ha)]
    exact (under_cells q r true).trans hcells
  rw [collect, bind_eq, under_bind_of_ok hvalues]
  simp only [collect, pure_eq, bind_eq, done_bind, under_done, List.append_nil]

end Spreadsheet.Functions
