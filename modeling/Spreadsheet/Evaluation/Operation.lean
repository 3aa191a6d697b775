import Spreadsheet.Decimal.Integral
import Spreadsheet.Evaluation.Argument
import Spreadsheet.Formula.Operator

/-!
# Computing operators

An operator takes the values of its operands from left to right.  Arithmetic
that gives NaN is an error, so no operator ever gives NaN.  A comparison and the
joining of texts always succeed.
-/

namespace Spreadsheet.Evaluation

open Spreadsheet.Formula (Sign Operator Error)

/-- A number as a result, which must not be NaN. -/
def checked (x : Float) : Except Error Value :=
  if x.isNaN then .error .badExpression else .ok (.number x)

/-- The result of a sign. -/
def signResult (s : Sign) (v : Value) : Except Error Value :=
  let x := v.toNumber
  if x.isNaN then .error .badExpression
  else
    match s with
    | .plus => .ok (.number x)
    | .minus => .ok (.number (-x))

/-- The result of an operator. -/
def operatorResult (op : Operator) (left right : Value) : Except Error Value :=
  let arithmetic (f : Float → Float → Float) := checked (f left.toNumber right.toNumber)
  match op with
  | .join => .ok (.text (left.asText ++ right.asText))
  | .compare c => .ok (.boolean (Value.compare c left right))
  | .add => arithmetic (· + ·)
  | .subtract => arithmetic (· - ·)
  | .multiply => arithmetic (· * ·)
  | .divide => arithmetic (· / ·)
  | .wholeDivide => arithmetic fun x y => Decimal.floor (x / y)
  | .modulo => arithmetic fun x y => Decimal.floor (Decimal.remainder x y)
  | .power => arithmetic Float.pow

/-- Applies a sign to an operand. -/
def applySign (s : Sign) (a : Argument) : Program Value := do
  .ofExcept (signResult s (← a.value))

/-- Applies an operator to its operands. -/
def applyOperator (op : Operator) (a b : Argument) : Program Value := do
  let left ← a.value
  let right ← b.value
  .ofExcept (operatorResult op left right)

end Spreadsheet.Evaluation
