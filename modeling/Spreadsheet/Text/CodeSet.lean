/-!
# Sets of code points

A property of the Unicode standard is a set of code points, and each such set
here is a list of *bounds*: the code points at which membership changes, in
ascending order, starting outside.  A code point belongs to the set when an odd
number of bounds is not above it.
-/

namespace Spreadsheet.Text

/-- A set of code points, given by the ascending bounds at which membership changes. -/
structure CodeSet where
  /-- The first code point inside, the first one outside again, and so on. -/
  bounds : List Nat

/-- How many bounds are at most `n`.  The bounds ascend, so the count stops at the first above. -/
def CodeSet.below (n : Nat) : List Nat → Nat
  | [] => 0
  | b :: rest => if b ≤ n then below n rest + 1 else 0

/-- Whether a character belongs to the set. -/
def CodeSet.contains (s : CodeSet) (c : Char) : Bool :=
  CodeSet.below c.toNat s.bounds % 2 == 1

/-! ## Tests -/

example : (CodeSet.mk [65, 91]).contains 'A' = true := by decide
example : (CodeSet.mk [65, 91]).contains 'Z' = true := by decide
example : (CodeSet.mk [65, 91]).contains '[' = false := by decide

end Spreadsheet.Text
