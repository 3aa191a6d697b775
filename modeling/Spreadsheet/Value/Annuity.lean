import Spreadsheet.Formula.Error

/-!
# The interest rate of an annuity

An annuity pays an amount every period and has a value at its start and at its
end.  Its balance at a rate is what these leave over, and the rate wanted makes
it zero.  The balance is divided by what one unit paid every period grows to, so
that the search works in units of the payment also for long terms.

The search follows the secant through the last two estimates.  It stops when
two of them are close, takes the last one if the balance there is small against
the payments, and otherwise gives up.
-/

namespace Spreadsheet.Value

open Spreadsheet.Formula (Error)

/-- The terms of an annuity. -/
structure Annuity where
  /-- The number of periods. -/
  periods : Float
  /-- The payment of a period. -/
  payment : Float
  /-- The value at the start. -/
  present : Float
  /-- The value at the end. -/
  future : Float
  /-- One if the payments are due at the start of each period, and zero otherwise. -/
  due : Float

namespace Annuity

/-- What is left over at a rate. -/
def balance (a : Annuity) (rate : Float) : Float :=
  if rate == 0.0 then a.present + a.payment * a.periods + a.future
  else
    let growth := (1.0 + rate).pow a.periods
    a.present * growth + a.payment * (1.0 + rate * a.due) * (growth - 1.0) / rate + a.future

/-- What one unit paid every period grows to. -/
def factor (a : Annuity) (rate : Float) : Float :=
  if rate == 0.0 then a.periods
  else (1.0 + rate * a.due) * ((1.0 + rate).pow a.periods - 1.0) / rate

/-- The balance in units of the payment. -/
def residual (a : Annuity) (rate : Float) : Float := a.balance rate / a.factor rate

/-- The greatest residual that counts as zero. -/
def tolerance (a : Annuity) : Float :=
  0.000001 * (1.0 + a.payment.abs + a.present.abs + a.future.abs)

/-- Two estimates closer than this end the search. -/
def precision : Float := 0.0000001

/-- The number of estimates that are tried. -/
def maxSteps : Nat := 20

/-- Goes on from two estimates, with the residual of the older one. -/
def searchFrom (a : Annuity) : Nat → Float → Float → Float → Option Float
  | 0, _, _, _ => none
  | steps + 1, older, olderResidual, estimate =>
    let residual := a.residual estimate
    if residual == 0.0 then some estimate
    else if residual == olderResidual || !residual.isFinite then none
    else
      let next := estimate - residual * (estimate - older) / (residual - olderResidual)
      if (next - estimate).abs < precision then
        if residual.abs ≤ a.tolerance then some next else none
      else searchFrom a steps estimate residual next

/-- The rate that makes the balance zero, searched from a guess and a tenth more. -/
def rate (a : Annuity) (guess : Float) : Except Error Float :=
  match a.searchFrom maxSteps guess (a.residual guess) (guess * 1.1) with
  | some x => .ok x
  | none => .error (.noConvergence "RATE")

end Annuity

end Spreadsheet.Value
