import Spreadsheet.Formula.Function
import Spreadsheet.Formula.Operator

/-!
# Expressions

The tree of a formula.  A literal is a number, a text or a date of the formula,
or a value that the host gave for a name it knows.  A call holds the function
itself, so a tree means the same after another function was registered.
-/

namespace Spreadsheet.Formula

/-- The tree of a formula. -/
inductive Expr where
  /-- A value. -/
  | literal (v : Value)
  /-- A sign in front of an operand. -/
  | signed (s : Sign) (operand : Expr)
  /-- An operator between two operands. -/
  | binary (op : Operator) (left right : Expr)
  /-- A reference. -/
  | reference (r : Reference)
  /-- A function with its arguments. -/
  | call (f : Function) (arguments : List Expr)

end Spreadsheet.Formula
