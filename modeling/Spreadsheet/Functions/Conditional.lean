import Spreadsheet.Evaluation.Operation
import Spreadsheet.Text.Matching
import Spreadsheet.Value.Aggregate
import Spreadsheet.Value.Criterion

/-!
# Functions with criteria

A criterion tests the cells of a range, and several of them with ranges of the
same shape select the places where all are satisfied.  The functions count
these places or add up the numbers that another range holds there.

A place that one criterion has excluded is not tested by those after it.
-/

namespace Spreadsheet.Value

open Spreadsheet.Evaluation (Program applyOperator)

/-- Whether a value satisfies a criterion.  Comparing is the work of the comparison operators. -/
def Criterion.test (c : Criterion) (v : Value) : Program Bool :=
  match c with
  | .blank => return v.isBlank
  | .nonBlank => return !v.isBlank
  | .pattern pieces negate => return Text.Glob.matchesAll pieces v.asText != negate
  | .compare op operand => do
    let result ← applyOperator (.compare op) (.computed (.done v))
      (.computed (.done (.text operand)))
    .ofExcept result.toBoolean

end Spreadsheet.Value

namespace Spreadsheet.Functions

open Spreadsheet.Evaluation (Argument Program argument)
open Spreadsheet.Formula (Reference Error)
open Spreadsheet.Value (Criterion)

/-- Ranges with their criteria, in the order of the arguments. -/
def pairs (function : String) : List Argument → Program (List (Reference × Criterion))
  | [] => return []
  | [_] => .fail .missingArgument
  | range :: criterion :: rest => do
    let r ← range.reference function
    let c ← .ofExcept (Criterion.read (← criterion.value))
    return (r, c) :: (← pairs function rest)

/-- Checks that ranges have the shape of the first one. -/
def checkShapes (function : String) (first : Reference) : List Reference → Except Error Unit
  | [] => .ok ()
  | r :: rest =>
    if r.range.rows ≠ first.range.rows || r.range.columns ≠ first.range.columns then
      .error (.argument (.unequalRanges function first.text r.text))
    else checkShapes function first rest

/-- Tests the places that are still selected. -/
def narrow (c : Criterion) : List (Bool × Value) → Program (List Bool)
  | [] => return []
  | (selected, v) :: rest => do
    let flag ← if selected then c.test v else pure false
    return flag :: (← narrow c rest)

/-- Narrows a selection by one range after the other.  No selection yet stands for all places. -/
def select : Option (List Bool) → List (Reference × Criterion) → Program (List Bool)
  | flags, [] => return flags.getD []
  | flags, (r, c) :: rest => do
    let vs ← Program.cells r true
    let flags := flags.getD (vs.map fun _ => true)
    let narrowed ← narrow c (flags.zip vs)
    select (some (narrowed ++ flags.drop vs.length)) rest

/-- The places that satisfy all criteria.  A range to add up must have the same shape, too. -/
def selection (function : String) (arguments : List Argument) (summed : Option Reference) :
    Program (List Bool) := do
  if arguments.isEmpty || arguments.length % 2 ≠ 0 then .fail (.argument (.unpaired function))
  let tests ← pairs function arguments
  match tests.map (·.1) ++ summed.toList with
  | [] => .fail .missingArgument
  | first :: rest => do
    .ofExcept (checkShapes function first rest)
    select none tests

/-- How many places are selected. -/
def countSelected (function : String) (arguments : List Argument) : Program Value := do
  return .number (Float.ofNat ((← selection function arguments none).countP id))

/-- The sum of the numbers of a range at the selected places. -/
def sumSelected (r : Reference) (flags : List Bool) : Program Value := do
  let vs ← Program.cells r true
  let chosen := ((vs.zip flags).filter (·.2)).map fun entry => entry.1.toNumber
  return .number (Value.total (chosen.filter fun x => !x.isNaN))

/-- The sum over the cells that satisfy a criterion.  Without a range to add up, it is the range
that is tested. -/
def sumIf (arguments : List Argument) : Program Value := do
  let r ← match arguments[2]? with
    | some a => a.reference "SUMIF"
    | none => do (← argument arguments 0).reference "SUMIF"
  let flags ← selection "SUMIF" (← Program.entriesBefore arguments 2) (some r)
  sumSelected r flags

/-- The sum over the cells that satisfy several criteria. -/
def sumIfs (arguments : List Argument) : Program Value := do
  let r ← (← argument arguments 0).reference "SUMIFS"
  let flags ← selection "SUMIFS" (← Program.entriesFrom arguments 1) (some r)
  sumSelected r flags

end Spreadsheet.Functions
