import Spreadsheet.Proofs.Engine.Trees
import Spreadsheet.Proofs.Functions.Lookups
import Spreadsheet.Proofs.Value.SortedSearch

/-!
# Sorted matches

`MATCH` with type 1 or -1 takes its keys to be sorted and leaves blank ones out.
Where no blank key that has passed the value stands before one that fits, it
gives the position of the last key that fits, and finds nothing just when there
is none (`Reached.match_sorted`).  Elsewhere it misses keys
(`match_behind_blank`).
-/

namespace Spreadsheet.Engine

open Spreadsheet.Decimal (toSigned64)
open Spreadsheet.Evaluation
open Spreadsheet.Formula (Error Expr Function Reference)
open Spreadsheet.Grid (Workbook)
open Spreadsheet.Value (order fits lastIdx?)

/-- A type of sorted match, and what keys that have passed the value compare to it as. -/
def Passing (type : Int) (past : Ordering) : Prop :=
  type = 1 ∧ past = .gt ∨ type = -1 ∧ past = .lt

theorem matchPosition?_of_passing {type : Int} {past : Ordering} (h : Passing type past)
    (sought : Value) (keys : List Value) :
    Functions.matchPosition? sought type keys = .ok (Value.sortedPosition? sought past keys) := by
  obtain ⟨rfl, rfl⟩ | ⟨rfl, rfl⟩ := h <;> rfl

/-- A sorted match gives the position of the last key that is neither blank nor past the value. -/
theorem Reached.match_sorted {settings : Settings} {fs : List Function} {e : Engine}
    (he : Reached settings fs e) {h : Host} (hh : h.KnowsNoNames) {text : String} {f : Function}
    (hf : f.body = .builtin .position) {ex er : Expr} {rest : List Expr}
    (htext : treesOf e.registry text (.call f (ex :: er :: rest))) {o : Options}
    (ho : o.format = none) {x : Value} {r : Reference} {t : Float} {keys : List Value}
    (hx : (e.runProgram h (o.sheet.getD h.selected)
      (argumentOf ((e.surroundings h).context o) ex).value).1 = .ok x)
    (hr : (e.runProgram h (o.sheet.getD h.selected)
      ((argumentOf ((e.surroundings h).context o) er).reference "MATCH")).1 = .ok r)
    (ht : (e.runProgram h (o.sheet.getD h.selected) (optionalNumber
      (argumentsOf ((e.surroundings h).context o) (ex :: er :: rest)) 2 1.0)).1 = .ok t)
    (hkeys : (e.rangeValues h (o.sheet.getD h.selected) r true none).1 = .ok keys)
    {past : Ordering} (hpast : Passing (toSigned64 t) past)
    (hsorted : (keys.filter fun k => !k.isBlank).Pairwise fun k l =>
      order k x = past → order l x = past)
    (hblank : keys.Pairwise fun k l => k.isBlank = true → order k x = past →
      l.isBlank = true ∨ order l x = past) :
    let result := (e.tryEvaluate h text o).1
    (∀ i k, keys[i]? = some k → k.isBlank = false → order k x ≠ past →
      (∀ j l, i < j → keys[j]? = some l → l.isBlank = true ∨ order l x = past) →
        result = .ok (.number (Float.ofNat (i + 1)))) ∧
    (result = .error (.notFound x.asText) ↔
      ∀ k ∈ keys, k.isBlank = true ∨ order k x = past) := by
  intro result
  have hfits {k : Value} : fits x past k = false ↔ k.isBlank = true ∨ order k x = past := by
    simp [fits, or_iff_not_imp_left]
  have hposition : Value.sortedPosition? x.raw past keys = lastIdx? (fits x past) keys := by
    rw [Value.sortedPosition?_raw, Value.sortedPosition?_eq_iff]
    exact Value.sortedFor_of_filter hsorted (hblank.imp fun h hk hpast => hfits.2 (h hk hpast))
  have hresult : result = Functions.positionResult x.raw (lastIdx? (fits x past) keys) := by
    rw [he.atRest.1.runProgram hh] at hx hr ht
    rw [he.atRest.1.rangeValues hh] at hkeys
    have hunder := Functions.position_under hr ht
    rw [hx, Program.ok_bind, hkeys, Program.ok_bind, matchPosition?_of_passing hpast,
      Program.ok_bind, hposition] at hunder
    simp only [result]
    rw [he.atRest.1.tryEvaluate_of_call hh hf htext ho]
    refine (congrArg (· >>= _) hunder).trans ?_
    cases lastIdx? (fits x past) keys <;> rfl
  rw [hresult]
  constructor
  · intro i k hk hblank hne hafter
    have hlast : lastIdx? (fits x past) keys = some i :=
      Value.lastIdx?_eq_some_iff.2 ⟨⟨k, hk, by simp [fits, hblank, hne]⟩, fun j l hj hl =>
        hfits.2 (hafter j l hj hl)⟩
    rw [hlast]
    rfl
  · cases hlast : lastIdx? (fits x past) keys with
    | none =>
      rw [Functions.positionResult, Value.asText_raw]
      exact ⟨fun _ k hk => hfits.1 (Value.lastIdx?_eq_none_iff.1 hlast k hk), fun _ => rfl⟩
    | some i =>
      obtain ⟨⟨k, hk, hkfits⟩, -⟩ := Value.lastIdx?_eq_some_iff.1 hlast
      refine iff_of_false (fun h => ?_) fun hnone => ?_
      · cases h
      cases (hfits.2 (hnone k (List.mem_of_getElem? hk))).symm.trans hkfits

/-- Rising numbers with a blank cell, a blank text and a date among them. -/
def rising : Workbook where
  sheets := [
    { name := "a"
      cells := [
        ((0, 0), { content := .number (-1.0) }), ((2, 0), { content := .number 2.0 }),
        ((3, 0), { content := .text "" }), ((4, 0), { content := .number 3.5 }),
        ((5, 0), { content := .boolean true })] }]

/-- The last key up to the number 3 is behind a blank one. -/
theorem Reached.match_sorted_rising :
    let e := Engine.new {}
    Reached {} [] e ∧ (e.tryEvaluate rising.host "=MATCH(3,A1:A5,1)" {}).1 = .ok (.number 3.0) := by
  intro e
  have he : Reached {} [] e := .new
  let r : Reference := ⟨{ top := 0, left := 0, bottom := 4, right := 0 }, none⟩
  let keys : List Value := [.number (-1.0), .empty, .number 2.0, .text "", .number 3.5]
  have htext : treesOf .standard "=MATCH(3,A1:A5,1)"
      (.call (Formula.Builtin.function .position)
        [.literal (.number 3.0), .reference r, .literal (.number 1.0)]) :=
    ⟨"MATCH(3,A1:A5,1)", rfl, rfl⟩
  have hkeys : (e.rangeValues rising.host 0 r true none).1 = .ok keys := rfl
  have hsorted : (keys.filter fun k => !k.isBlank).Pairwise fun k l =>
      order k (.number 3.0) = .gt → order l (.number 3.0) = .gt := by
    decide +kernel
  have hblank : keys.Pairwise fun k l => k.isBlank = true → order k (.number 3.0) = .gt →
      l.isBlank = true ∨ order l (.number 3.0) = .gt := by
    decide +kernel
  have hpast : Passing (toSigned64 1.0) .gt := .inl ⟨by decide +kernel, rfl⟩
  have hafter (j : Nat) (l : Value) (hj : 2 < j) (hl : keys[j]? = some l) :
      l.isBlank = true ∨ order l (.number 3.0) = .gt := by
    obtain rfl | rfl | hj : j = 3 ∨ j = 4 ∨ 5 ≤ j := by omega
    · cases hl
      exact .inl rfl
    · cases hl
      exact .inr (by decide +kernel)
    · rw [List.getElem?_eq_none hj] at hl
      cases hl
  have hthird : Float.ofNat (2 + 1) = 3.0 := by decide +kernel
  rw [← hthird]
  exact ⟨he, (Reached.match_sorted he rising.host_knowsNoNames rfl htext (o := {}) rfl rfl rfl rfl
    hkeys hpast hsorted hblank).1 2 (.number 2.0) rfl rfl (by decide +kernel) hafter⟩

/-- Two negative numbers with a blank cell between them. -/
def interrupted : Workbook where
  sheets := [
    { name := "a"
      cells := [
        ((0, 0), { content := .number (-10.0) }), ((2, 0), { content := .number (-7.0) })] }]

/-- A blank key counts as zero and has passed every negative number, so the key behind it is missed,
although the keys are sorted apart from it. -/
theorem match_behind_blank :
    let e := Engine.new {}
    let r : Reference := ⟨{ top := 0, left := 0, bottom := 2, right := 0 }, none⟩
    let keys : List Value := [.number (-10.0), .empty, .number (-7.0)]
    (e.rangeValues interrupted.host 0 r true none).1 = .ok keys ∧
      ((keys.filter fun k => !k.isBlank).Pairwise fun k l =>
        order k (.number (-5.0)) = .gt → order l (.number (-5.0)) = .gt) ∧
      lastIdx? (fits (.number (-5.0)) .gt) keys = some 2 ∧
      (e.tryEvaluate interrupted.host "=MATCH(-5,A1:A3,1)" {}).1 = .ok (.number 1.0) :=
  ⟨rfl, by decide +kernel, by decide +kernel, by decide +kernel⟩

end Spreadsheet.Engine
