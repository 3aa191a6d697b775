import Spreadsheet.Value.Comparison
import Spreadsheet.Value.Wildcard

/-!
# Criteria

A criterion is a text that selects cells.  It may begin with a comparison
operator, and without one it means `=`.  What follows the operator decides the
rest.

* Nothing: `=` selects blank cells and `<>` all others.
* A text with wildcards: `=` selects the cells that match it and `<>` all
  others.
* Any other text is compared with the cell.

A criterion that says neither is refused, and so is one with too large a
pattern.
-/

namespace Spreadsheet.Value

open Spreadsheet.Formula (Error)
open Spreadsheet.Text (trim Piece Glob.hasWildcards)

/-- What selects cells. -/
inductive Criterion where
  /-- Blank cells. -/
  | blank
  /-- Cells that are not blank. -/
  | nonBlank
  /-- Cells that match a pattern, or those that do not. -/
  | pattern (pieces : List Piece) (negate : Bool)
  /-- Cells that compare with a text in a way. -/
  | compare (op : Comparison) (operand : String)
deriving DecidableEq

/-- The operators that a criterion may begin with.  Those of two characters come first. -/
def criterionOperators : List (List Char × Comparison) := [
  (['>', '='], .greaterEqual), (['<', '='], .lessEqual), (['<', '>'], .notEqual),
  (['>'], .greater), (['<'], .less), (['='], .equal)]

/-- The operator of a criterion, and what follows it. -/
def splitOperator (s : String) : Comparison × String :=
  let cs := s.toList
  match criterionOperators.find? fun entry => entry.1.isPrefixOf cs with
  | some (written, op) => (op, trim (String.ofList (cs.drop written.length)))
  | none => (.equal, trim s)

/-- Reads a criterion off the text of a value. -/
def Criterion.read (v : Value) : Except Error Criterion :=
  let whole := v.asText
  let (op, operand) := splitOperator whole
  let refused : Except Error Criterion := .error (.invalidCriterion whole)
  if operand.isEmpty then
    match op with
    | .equal => .ok .blank
    | .notEqual => .ok .nonBlank
    | _ => refused
  else if Glob.hasWildcards operand then
    match op with
    | .equal => (wholePattern operand).map (.pattern · false)
    | .notEqual => (wholePattern operand).map (.pattern · true)
    | _ => refused
  else .ok (.compare op operand)

/-! ## Tests -/

example : (Criterion.read (.text ">= 5 ")).toOption = some (.compare .greaterEqual "5") := by
  decide +kernel
example : (Criterion.read (.text "<>")).toOption = some .nonBlank := by decide +kernel
example : (Criterion.read (.text "<a*")).toOption = none := by decide +kernel
example : (Criterion.read (.number 5.0)).toOption = some (.compare .equal "5") := by decide +kernel

end Spreadsheet.Value
