import Spreadsheet.Evaluation.Argument

/-!
# Functions on truth values

These functions compute no more of their arguments than they need.  In a list
of conditions a range contributes the truth value of each cell that is not
blank.
-/

namespace Spreadsheet.Functions

open Spreadsheet.Evaluation (Argument Program argument)

/-- The truth values an argument contributes. -/
def truths (a : Argument) : Program (List Bool) := do
  match ← a.operand with
  | .range r => do
    let vs ← Program.cells r true
    .ofExcept ((vs.filter fun v => !v.isBlank).mapM Value.toBoolean)
  | .value v => return [← .ofExcept v.toBoolean]

/-- Whether a truth value occurs, where the arguments after the first occurrence are left alone. -/
def occurs (b : Bool) : List Argument → Program Bool
  | [] => return false
  | a :: rest => do
    if (← truths a).contains b then return true else occurs b rest

/-- Whether all conditions are true. -/
def conjunction (arguments : List Argument) : Program Value := do
  return .boolean (!(← occurs false arguments))

/-- Whether a condition is true. -/
def disjunction (arguments : List Argument) : Program Value := do
  return .boolean (← occurs true arguments)

/-- One of two values, chosen by a condition.  A value that is missing is the condition itself. -/
def branch (arguments : List Argument) : Program Value := do
  let condition ← (← argument arguments 0).boolean
  match arguments[if condition then 1 else 2]? with
  | some a => a.result
  | none => return .boolean condition

/-- The opposite truth value. -/
def negation (arguments : List Argument) : Program Value := do
  return .boolean (!(← (← argument arguments 0).boolean))

end Spreadsheet.Functions
