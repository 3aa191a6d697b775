import Spreadsheet.Text.Matching
import Spreadsheet.Value.Comparison
import Spreadsheet.Value.Wildcard

/-!
# Finding a value among keys

An exact search finds the first key that is equal to the value and as blank as
it is.  A text with wildcards finds the first key that matches it.

A sorted search takes the keys to be in order.  It stops at the first key that
has passed the value and finds the last key before that which is not blank.
-/

namespace Spreadsheet.Value

open Spreadsheet.Formula (Error)
open Spreadsheet.Text (Glob.hasWildcards Glob.matchesAll)

/-- The position of the first key that equals a value. -/
def equalPosition? (sought : Value) (keys : List Value) : Option Nat :=
  keys.findIdx? fun k => k.isBlank == sought.isBlank && order k sought == .eq

/-- The position of the first key that a value finds in an exact search. -/
def exactPosition? (sought : Value) (keys : List Value) : Except Error (Option Nat) :=
  match sought.raw with
  | .text s =>
    if Glob.hasWildcards s then do
      let pattern ← wholePattern s
      return keys.findIdx? fun k => Glob.matchesAll pattern k.asText
    else .ok (equalPosition? sought keys)
  | _ => .ok (equalPosition? sought keys)

/-- The position of the last key that a value finds in a sorted search.  Keys pass the value when
they compare to it as `past`. -/
def sortedPosition? (sought : Value) (past : Ordering) (keys : List Value) : Option Nat :=
  let reached := keys.takeWhile fun k => order k sought != past
  ((reached.zipIdx.filter fun (k, _) => !k.isBlank).map (·.2)).getLast?

/-! ## Tests -/

example : (exactPosition? (.text "B*") [.text "a", .text "bc"]).toOption = some (some 1) := by
  decide +kernel
example : (exactPosition? (.number 0.0) [.empty, .number 0.0]).toOption = some (some 1) := by
  decide +kernel
example : sortedPosition? (.number 2.5) .gt [.number 1.0, .number 2.0, .empty, .number 3.0]
    = some 1 := by decide +kernel

end Spreadsheet.Value
