import Spreadsheet.Evaluation.Evaluate
import Spreadsheet.Proofs.Decimal.RoundedTwice
import Spreadsheet.Proofs.Functions.Lookups
import Spreadsheet.Proofs.Value.Defined

/-!
# Functions that round to places

`ROUND`, `ROUNDUP`, `ROUNDDOWN` and `TRUNC` differ in their names, in the whole
number that they take and in whether the result shows the places (`rounding?`).
All of them compute their two arguments and give the rounded number
(`rounding_under`).  Where this is the first argument of the same function again,
its number is taken without its format (`number_of_result`), so the second result
is the first one unless the number slips (`RoundingFunction.twice_eq_iff`).
-/

namespace Spreadsheet.Functions

open Spreadsheet.Decimal (Rounding Slips isFinite_shift maxShift not_slips_of_infinite roundTo
  roundTo_roundTo_iff shift shiftOf toWhole truncate)
open Spreadsheet.Evaluation (Answers Argument Context Program applyBuiltin argument numberAt
  optionalNumber)
open Spreadsheet.Evaluation.Program
open Spreadsheet.Formula (Builtin Error)

/-- What functions that round to places differ in. -/
structure RoundingFunction where
  /-- The name that stands in errors. -/
  name : String
  /-- Which whole number is taken. -/
  mode : Rounding
  /-- The result carries a format that shows the places. -/
  shown : Bool

/-- The functions that round to places. -/
def rounding? : Builtin → Option RoundingFunction
  | .round => some ⟨"ROUND", .nearest, true⟩
  | .roundUp => some ⟨"ROUNDUP", .up, true⟩
  | .roundDown => some ⟨"ROUNDDOWN", .down, true⟩
  | .trunc => some ⟨"TRUNC", .down, false⟩
  | _ => none

namespace RoundingFunction

variable {r : RoundingFunction} {n : Int} {x y : Float}

/-- A number as the result for some places. -/
def display (r : RoundingFunction) (n : Int) (x : Float) : Value :=
  if r.shown then .formatted (.number x) (placesFormat n) else .number x

/-- The result for a number and its places. -/
def result (r : RoundingFunction) (n : Int) (x : Float) : Except Error Value :=
  if (roundTo r.mode n x).isFinite then .ok (r.display n (roundTo r.mode n x))
  else .error (.argument (.undefined r.name))

/-- The result of rounding a number and then its result, if there is one. -/
def twice (r : RoundingFunction) (n : Int) (x : Float) : Except Error Value :=
  r.result n x >>= fun v => r.result n v.toNumber

@[simp] theorem toNumber_display : (r.display n x).toNumber = x := by
  unfold display
  split <;> rfl

theorem display_inj : r.display n x = r.display n y ↔ x = y :=
  ⟨fun h => by rw [← toNumber_display (r := r) (n := n) (x := x), h, toNumber_display],
    congrArg _⟩

/-- The result of rounding twice is the result of rounding once, unless the number slips. -/
theorem twice_eq_iff (hx : x.isFinite = true) (hn : n.natAbs ≤ 308) :
    r.twice n x = r.result n x ↔ ¬ Slips r.mode n x := by
  rw [← roundTo_roundTo_iff hn hx]
  unfold twice result
  cases hfinite : (roundTo r.mode n x).isFinite with
  | false =>
    have hsettled := (roundTo_roundTo_iff hn hx r.mode).2
      (not_slips_of_infinite (isFinite_shift hn hfinite))
    exact iff_of_true rfl hsettled
  | true =>
    rw [if_pos rfl]
    change (if _ then _ else _) = _ ↔ _
    rw [toNumber_display]
    constructor
    · intro heq
      split at heq
      next => exact display_inj.1 (Except.ok.inj heq)
      next => cases heq
    · intro heq
      rw [heq, if_pos hfinite]

end RoundingFunction

variable {q : Answers} {a : Argument} {rest : List Argument} {p : Program Value} {b : Builtin}
  {r : RoundingFunction} {n : Int} {x : Float}

/-- A function that rounds computes its arguments and gives the rounded number. -/
theorem rounding_under (hb : rounding? b = some r) (c : Context)
    (hn : (places (a :: rest)).under q = .ok n) :
    (applyBuiltin c (a :: rest) b).under q = a.number.under q >>= r.result n := by
  have hfirst : numberAt (a :: rest) 0 = a.number := rfl
  have hrounded (function : String) (mode : Rounding) :
      (rounded function mode (a :: rest)).under q =
        a.number.under q >>= RoundingFunction.result ⟨function, mode, true⟩ n := by
    simp only [rounded, bind_eq, hfirst, under_bind, hn, ok_bind, under_ofExcept]
    refine congrArg _ (funext fun x => ?_)
    unfold finite RoundingFunction.result
    change (if (roundTo mode n x).isFinite = true then _ else _) >>= _ = _
    split <;> rfl
  have htrunc : (trunc (a :: rest)).under q =
      a.number.under q >>= RoundingFunction.result ⟨"TRUNC", .down, false⟩ n := by
    simp only [trunc, bind_eq, hfirst, under_bind, hn, ok_bind, under_ofExcept]
    rfl
  unfold rounding? at hb
  split at hb <;> cases hb
  · exact hrounded "ROUND" .nearest
  · exact hrounded "ROUNDUP" .up
  · exact hrounded "ROUNDDOWN" .down
  · exact htrunc

/-- Where a function that rounds is an argument, its number is taken. -/
theorem number_of_result (hp : p.under q = r.result n x) :
    (Argument.computed p).number.under q = r.result n x >>= fun v => .ok v.toNumber := by
  unfold RoundingFunction.result at hp ⊢
  split at hp
  next hfinite =>
    have hvalue (s : Formula.Reference) : r.display n (roundTo r.mode n x) ≠ .reference s := by
      unfold RoundingFunction.display
      split <;> exact nofun
    rw [if_pos hfinite, number_under_of_value hp hvalue, ok_bind,
      Value.expectNumber, RoundingFunction.toNumber_display, isNaN_of_isFinite hfinite]
    rfl
  next hinfinite =>
    rw [if_neg hinfinite, number_under_of_error hp]
    rfl

/-- The result of a function that rounds is rounded again by the same function. -/
theorem rounding_twice_under (hb : rounding? b = some r) (c : Context)
    (hx : a.number.under q = .ok x) (hn : ∀ a', (places (a' :: rest)).under q = .ok n) :
    (applyBuiltin c (.computed (applyBuiltin c (a :: rest) b) :: rest) b).under q =
      r.twice n x := by
  have hinner := rounding_under hb c (hn a)
  rw [hx] at hinner
  rw [rounding_under hb c (hn _), number_of_result hinner]
  unfold RoundingFunction.twice
  cases r.result n x <;> rfl

/-- The point is not moved farther than the greatest power of ten. -/
theorem natAbs_shiftOf_le (y : Float) : (shiftOf y).natAbs ≤ 308 := by
  unfold shiftOf toWhole maxShift
  split
  · decide
  · split <;> decide
  · dsimp only
    omega

end Spreadsheet.Functions
