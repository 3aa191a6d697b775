import Spreadsheet.Decimal.Integral
import Spreadsheet.Decimal.Sorting
import Spreadsheet.Evaluation.Argument
import Spreadsheet.Value.Aggregate

/-!
# Functions that reduce lists

These functions flatten their arguments into one list of values and reduce it.
`SUBTOTAL` chooses the aggregate by a code, which also says whether hidden cells
count.
-/

namespace Spreadsheet.Functions

open Spreadsheet.Decimal (ascending descending toSigned64 truncate)
open Spreadsheet.Evaluation (Argument Program argument numberAt optionalNumber)
open Spreadsheet.Value (Aggregate)

/-- The values of all arguments in one list. -/
def collect (includeHidden : Bool) : List Argument → Program (List Value)
  | [] => return []
  | a :: rest => do
    let vs ← a.values includeHidden
    return vs ++ (← collect includeHidden rest)

/-- An aggregate of all arguments. -/
def aggregate (kind : Aggregate) (arguments : List Argument) : Program Value := do
  .ofExcept (kind.apply (← collect true arguments))

/-- How many blank values there are. -/
def countBlank (arguments : List Argument) : Program Value := do
  return .number (Float.ofNat ((← collect true arguments).countP Value.isBlank))

/-- The values of each argument as a list of its own. -/
def arrays : List Argument → Program (List (List Value))
  | [] => return []
  | a :: rest => do
    let vs ← a.values true
    return vs :: (← arrays rest)

/-- What an entry contributes to a sum of products.  Text contributes nothing, even if it reads as a
number. -/
def factorOf (v : Value) : Float :=
  match v.raw with
  | .number x => if x.isNaN then 0.0 else x
  | .date m => m.serial
  | _ => 0.0

/-- The product of the entries at a place of several lists. -/
def productAt (i : Nat) : List (Array Value) → Float → Program Float
  | [], product => return product
  | vs :: rest, product =>
    match vs[i]? with
    | some v => productAt i rest (product * factorOf v)
    | none => .fail .missingArgument

/-- The products of the entries at some places of several lists. -/
def products (lists : List (Array Value)) : List Nat → Program (List Float)
  | [] => return []
  | i :: places => do
    let x ← productAt i lists 1.0
    return x :: (← products lists places)

/-- The sum of the products of entries at the same place. -/
def sumProduct (arguments : List Argument) : Program Value := do
  let lists ← arrays arguments
  match lists with
  | [] => .fail .missingArgument
  | first :: _ =>
    if lists.any fun vs => vs.length ≠ first.length then .fail (.argument .unequalArrays)
    else do
      let xs ← products (lists.map List.toArray) (List.range first.length)
      return .number (Value.total xs)

/-- Numbers in the order of their ranks, from the greatest one or else from the least. -/
def ranked (order : Float) (xs : List Float) : List Float :=
  if order == 0.0 then descending xs else ascending xs

/-- The place of a number among others. -/
def rank (arguments : List Argument) : Program Value := do
  let x ← numberAt arguments 0
  let xs := Value.numbers (← (← argument arguments 1).values true)
  let order ← optionalNumber arguments 2 0.0
  match (ranked order xs).findIdx? (· == x) with
  | some i => return .number (Float.ofNat (i + 1))
  | none => .fail (.notFound (Value.number x).asText)

/-- An aggregate chosen by a code. -/
def subtotal (arguments : List Argument) : Program Value := do
  let code := toSigned64 (truncate (← numberAt arguments 0))
  match Aggregate.ofCode? code with
  | none => .fail (.argument (.subtotalCode code))
  | some (kind, includeHidden) => do
    let rest ← Program.entriesFrom arguments 1
    .ofExcept (kind.apply (← collect includeHidden rest))

end Spreadsheet.Functions
