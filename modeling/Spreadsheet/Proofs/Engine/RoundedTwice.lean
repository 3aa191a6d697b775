import Spreadsheet.Proofs.Engine.Expressions
import Spreadsheet.Proofs.Functions.Rounding

/-!
# Rounding a result again

A formula that rounds may round the result of another one to the same places.
After any calls of an engine both have a result, or one error, and the results are
the same unless the number slips (`Reached.rounded_twice`).  Rounding toward zero and
away from zero can slip wherever the point is moved, since the number that comes
back may be next to the whole number on either side of it: 1.15 has 114.99999999999999
hundredths, and 1.14 has 113.99999999999999.
-/

namespace Spreadsheet.Engine

open Spreadsheet.Decimal (Slips magnitude nearest not_slips_nearest not_slips_zero shift shiftOf
  truncate)
open Spreadsheet.Evaluation
open Spreadsheet.Evaluation.Program
open Spreadsheet.Formula (Builtin Expr Function)
open Spreadsheet.Functions (RoundingFunction natAbs_shiftOf_le placesFormat rounding?
  rounding_twice_under rounding_under)

/-- The arguments after the number say how many places a call rounds to.  Without one there are
none. -/
def HasPlaces (e : Engine) (h : Host) (o : Options) (rest : List Expr) (n : Int) : Prop :=
  rest = [] ∧ n = 0 ∨ ∃ ed y, rest = [ed] ∧ e.numberOf h o ed = .ok y ∧ n = shiftOf (truncate y)

variable {e : Engine} {h : Host} {o : Options} {f : Function} {b : Builtin} {ex : Expr}
  {rest : List Expr} {r : RoundingFunction} {x : Float} {n : Int}

theorem natAbs_le_of_hasPlaces (hn : e.HasPlaces h o rest n) : n.natAbs ≤ 308 := by
  obtain ⟨-, rfl⟩ | ⟨-, y, -, -, rfl⟩ := hn
  · decide
  · exact natAbs_shiftOf_le _

theorem settledValue_result (q : Answers) (n : Int) (x : Float) :
    r.result n x >>= settledValue q = r.result n x := by
  unfold RoundingFunction.result RoundingFunction.display
  split
  · split <;> rfl
  · rfl

theorem settledValue_twice (q : Answers) (n : Int) (x : Float) :
    r.twice n x >>= settledValue q = r.twice n x := by
  unfold RoundingFunction.twice
  cases r.result n x with
  | ok v => exact settledValue_result q n _
  | error err => rfl

namespace AtRest

variable (he : e.AtRest) (hh : h.KnowsNoNames)
include he hh

/-- The places of a call do not depend on its number. -/
theorem places_under (hn : e.HasPlaces h o rest n) (a : Argument) :
    (Functions.places (a :: argumentsOf ((e.surroundings h).context o) rest)).under
      (answers e.registry h (o.sheet.getD h.selected)) = .ok n := by
  obtain ⟨rfl, rfl⟩ | ⟨ed, y, rfl, hy, rfl⟩ := hn
  · have hnone : shiftOf (truncate 0.0) = 0 := by decide +kernel
    simp only [Functions.places, optionalNumber, argumentsOf, List.getElem?_cons_succ,
      List.getElem?_nil, bind_eq, pure_eq, done_bind, under_done, hnone]
  · rw [numberOf, he.runProgram hh] at hy
    simp only [Functions.places, optionalNumber, argumentsOf, List.getElem?_cons_succ,
      List.getElem?_cons_zero, bind_eq, pure_eq]
    rw [under_bind_of_ok hy]
    rfl

/-- A formula rounds its number, and a formula around it rounds the result. -/
theorem evaluates_rounding (ho : o.format = none) (hf : f.body = .builtin b)
    (hb : rounding? b = some r) (hx : e.numberOf h o ex = .ok x)
    (hn : e.HasPlaces h o rest n) :
    e.Evaluates h o (.call f (ex :: rest)) (r.result n x) ∧
      e.Evaluates h o (.call f (.call f (ex :: rest) :: rest)) (r.twice n x) := by
  rw [numberOf, he.runProgram hh] at hx
  have hplaces := he.places_under hh hn
  constructor
  · rw [← settledValue_result]
    refine he.evaluates_call hh hf ho ?_
    rw [argumentsOf, rounding_under hb _ (hplaces _), hx]
    rfl
  · rw [← settledValue_twice]
    refine he.evaluates_call hh hf ho ?_
    rw [argumentsOf, argumentOf_call hf, argumentsOf]
    exact rounding_twice_under hb _ hx hplaces

end AtRest

/-- Rounding the result of rounding to the same places gives that result again, unless the number
slips.  It does not slip without places, nor to the nearest number with at most 51 binary digits. -/
theorem Reached.rounded_twice {settings : Settings} {fs : List Function}
    (he : Reached settings fs e) (hh : h.KnowsNoNames) (ho : o.format = none)
    (hf : f.body = .builtin b) (hb : rounding? b = some r) (hx : e.numberOf h o ex = .ok x)
    (hfinite : x.isFinite = true) (hn : e.HasPlaces h o rest n) :
    e.Evaluates h o (.call f (ex :: rest)) (r.result n x) ∧
      e.Evaluates h o (.call f (.call f (ex :: rest) :: rest)) (r.twice n x) ∧
      (r.twice n x = r.result n x ↔ ¬ Slips r.mode n x) ∧
      (n = 0 → r.twice n x = r.result n x) ∧
      (r.mode = .nearest → magnitude (nearest (shift x n)) < 2 ^ 51 →
        r.twice n x = r.result n x) := by
  obtain ⟨hone, htwo⟩ := he.atRest.1.evaluates_rounding hh ho hf hb hx hn
  have hplaces := natAbs_le_of_hasPlaces hn
  have hiff := r.twice_eq_iff hfinite hplaces
  refine ⟨hone, htwo, hiff, ?_, ?_⟩
  · rintro rfl
    exact hiff.2 (not_slips_zero hfinite _)
  · intro hmode hdigits
    rw [hiff, hmode]
    exact not_slips_nearest hplaces hfinite hdigits

/-- 1.15 in two places is 1.15 to the nearest number, again and again.  Toward zero it is 1.14, and
then 1.13. -/
theorem Reached.rounded_twice_cents :
    let e := Engine.new {}
    let h : Host := (Grid.Workbook.mk [] 0).host
    let x : Expr := .literal (.number 1.15)
    let digits : List Expr := [.literal (.number 2.0)]
    let call (b : Builtin) (ex : Expr) : Expr := .call (Formula.Builtin.function b) (ex :: digits)
    Reached {} [] e ∧ e.numberOf h {} x = .ok 1.15 ∧ (1.15 : Float).isFinite = true ∧
      e.HasPlaces h {} digits 2 ∧
      e.Evaluates h {} (call .round (call .round x)) (.ok (.formatted (.number 1.15) "n2")) ∧
      ¬ Slips .nearest 2 1.15 ∧
      e.Evaluates h {} (call .roundDown (call .roundDown x))
        (.ok (.formatted (.number 1.13) "n2")) ∧
      Slips .down 2 1.15 := by
  intro e h x digits call
  have he : Reached {} [] e := .new
  have hx : e.numberOf h {} x = .ok 1.15 := rfl
  have hfinite : (1.15 : Float).isFinite = true := by decide +kernel
  have hn : e.HasPlaces h {} digits 2 := .inr ⟨_, 2.0, rfl, rfl, by decide +kernel⟩
  have hh : h.KnowsNoNames := Grid.Workbook.host_knowsNoNames ⟨[], 0⟩
  obtain ⟨-, hround, hkeeps, -, -⟩ := Reached.rounded_twice he hh (o := {}) rfl
    (f := Formula.Builtin.function .round) rfl rfl hx hfinite hn
  obtain ⟨-, hdown, hslips, -, -⟩ := Reached.rounded_twice he hh (o := {}) rfl
    (f := Formula.Builtin.function .roundDown) rfl rfl hx hfinite hn
  let round : RoundingFunction := ⟨"ROUND", .nearest, true⟩
  let down : RoundingFunction := ⟨"ROUNDDOWN", .down, true⟩
  have hcents : round.result 2 1.15 = .ok (.formatted (.number 1.15) "n2") := by decide +kernel
  have hagain : round.twice 2 1.15 = .ok (.formatted (.number 1.15) "n2") := by decide +kernel
  have hfewer : down.result 2 1.15 = .ok (.formatted (.number 1.14) "n2") := by decide +kernel
  have hfewest : down.twice 2 1.15 = .ok (.formatted (.number 1.13) "n2") := by decide +kernel
  have hne : down.twice 2 1.15 ≠ down.result 2 1.15 := by
    rw [hfewer, hfewest]
    decide +kernel
  exact ⟨he, hx, hfinite, hn, hagain ▸ hround, hkeeps.1 (hagain.trans hcents.symm),
    hfewest ▸ hdown, not_not.1 (hslips.not.1 hne)⟩

/-- A number with two places is rounded down to another one. -/
theorem roundDown_twice_ne :
    let result (text : String) :=
      ((Engine.new {}).tryEvaluate (Grid.Workbook.mk [] 0).host text {}).1
    result "=ROUNDDOWN(1.15,2)" = .ok (.formatted (.number 1.14) "n2") ∧
      result "=ROUNDDOWN(ROUNDDOWN(1.15,2),2)" = .ok (.formatted (.number 1.13) "n2") ∧
      (1.13 : Float) ≠ 1.14 := by
  exact ⟨by decide +kernel, by decide +kernel, by decide +kernel⟩

end Spreadsheet.Engine
