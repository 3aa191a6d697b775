import Spreadsheet.Value.Comparison

/-!
# Operators

The operators that a formula may contain.  The ones between two operands fall
into four *levels*, loosest first: comparisons and the joining of texts, sums,
products, and powers.  A sign in front of an operand binds tighter than all of
them.
-/

namespace Spreadsheet.Formula

/-- A sign in front of an operand. -/
inductive Sign where
  /-- The sign `+`. -/
  | plus
  /-- The sign `-`. -/
  | minus
deriving DecidableEq, Repr

/-- An operator between two operands. -/
inductive Operator where
  /-- Addition, `+`. -/
  | add
  /-- Subtraction, `-`. -/
  | subtract
  /-- Multiplication, `*`. -/
  | multiply
  /-- Division, `/`. -/
  | divide
  /-- Division with the quotient rounded down, `\`. -/
  | wholeDivide
  /-- The remainder of a division, rounded down, `%`. -/
  | modulo
  /-- A power, `^`. -/
  | power
  /-- A comparison. -/
  | compare (c : Value.Comparison)
  /-- Texts joined, `&`. -/
  | join
deriving DecidableEq, Repr

/-- How tight an operator binds. -/
inductive Level where
  /-- Comparisons and the joining of texts. -/
  | comparison
  /-- Addition and subtraction. -/
  | sum
  /-- Multiplication and the divisions. -/
  | product
  /-- Powers. -/
  | power
deriving DecidableEq, Repr

/-- The level of an operator. -/
def Operator.level : Operator → Level
  | .add | .subtract => .sum
  | .multiply | .divide | .wholeDivide | .modulo => .product
  | .power => .power
  | .compare _ | .join => .comparison

end Spreadsheet.Formula
