import Spreadsheet.Text.Casing
import Spreadsheet.Value.Coercion

/-!
# Comparing values

Two values are compared as numbers when their difference is a number, and as
texts in lower case otherwise.  A comparison operator takes texts only to be
equal or not: of two texts none is less.  The order, which sorts and looks up,
goes by the code points of the texts.
-/

namespace Spreadsheet.Value

open Spreadsheet.Text (lower)

/-- A comparison operator. -/
inductive Comparison where
  /-- The operator `=`. -/
  | equal
  /-- The operator `<>`. -/
  | notEqual
  /-- The operator `<`. -/
  | less
  /-- The operator `<=`. -/
  | lessEqual
  /-- The operator `>`. -/
  | greater
  /-- The operator `>=`. -/
  | greaterEqual
deriving DecidableEq, Repr

/-- Whether a difference satisfies an operator. -/
def Comparison.holds (d : Float) : Comparison → Bool
  | .equal => d == 0.0
  | .notEqual => d != 0.0
  | .less => d < 0.0
  | .lessEqual => d ≤ 0.0
  | .greater => 0.0 < d
  | .greaterEqual => 0.0 ≤ d

/-- Whether two values satisfy an operator. -/
def compare (op : Comparison) (left right : Value) : Bool :=
  let d := left.toNumber - right.toNumber
  if d.isNaN then
    let equal := lower left.asText == lower right.asText
    match op with
    | .equal => equal
    | .notEqual => !equal
    | _ => false
  else op.holds d

/-- The order of two texts by their code points. -/
def orderTexts : List Char → List Char → Ordering
  | [], [] => .eq
  | [], _ :: _ => .lt
  | _ :: _, [] => .gt
  | a :: as, b :: bs =>
    if a.toNat < b.toNat then .lt else if b.toNat < a.toNat then .gt else orderTexts as bs

/-- The order of two values. -/
def order (left right : Value) : Ordering :=
  let d := left.toNumber - right.toNumber
  if d.isNaN then orderTexts (lower left.asText).toList (lower right.asText).toList
  else if d < 0.0 then .lt
  else if 0.0 < d then .gt
  else .eq

/-! ## Tests -/

example : compare .equal (.text "ABC") (.text "abc") = true := by decide +kernel
example : compare .less (.text "a") (.text "b") = false := by decide +kernel
example : compare .less (.text "2") (.number 10.0) = true := by decide +kernel
example : order (.text "a") (.text "b") = .lt := by decide +kernel

end Spreadsheet.Value
