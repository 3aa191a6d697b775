import Spreadsheet.Value.Coercion

/-!
# Aggregates

An aggregate reduces a list of values to one.  Most of them look at the numbers
in the list only, which are its numbers, its moments and the texts that read as
numbers.  When all of these were moments, the sum, the mean and the extremes
are a moment again.

Sums are added from the left, starting with minus zero, which is the number that
changes no other.  So the sum of nothing is minus zero.
-/

namespace Spreadsheet.Value

open Spreadsheet.Calendar (Moment)
open Spreadsheet.Formula (Error)
open Spreadsheet.Text (trim)

/-- A way to reduce a list of values. -/
inductive Aggregate where
  /-- The mean. -/
  | average
  /-- How many numbers there are. -/
  | count
  /-- How many values there are that are not empty. -/
  | countAll
  /-- The greatest number. -/
  | max
  /-- The least number. -/
  | min
  /-- The product. -/
  | product
  /-- The standard deviation of a sample. -/
  | stdev
  /-- The standard deviation of a population. -/
  | stdevP
  /-- The sum. -/
  | sum
  /-- The variance of a sample. -/
  | var
  /-- The variance of a population. -/
  | varP
deriving DecidableEq, Repr

/-- The aggregates in the order of their codes, which begin with 1. -/
def aggregates : List Aggregate :=
  [.average, .count, .countAll, .max, .min, .product, .stdev, .stdevP, .sum, .var, .varP]

/-- The aggregate with a code, and whether it includes hidden cells.  A hundred more leaves them
out. -/
def Aggregate.ofCode? (code : Int) : Option (Aggregate × Bool) :=
  if 1 ≤ code && code ≤ 11 then (aggregates[(code - 1).toNat]?).map (·, true)
  else if 101 ≤ code && code ≤ 111 then (aggregates[(code - 101).toNat]?).map (·, false)
  else none

/-- The number an entry of a list contributes. -/
def entryNumber? (v : Value) : Option Float :=
  match v.raw with
  | .number x => if x.isNaN then none else some x
  | .date m => some m.serial
  | .text s => readNumber? (trim s)
  | _ => none

/-- The numbers in a list of values. -/
def numbers (vs : List Value) : List Float := vs.filterMap entryNumber?

/-- Whether there are numbers in a list of values, and all of them are moments. -/
def allDates (vs : List Value) : Bool :=
  let entries := vs.filter fun v => (entryNumber? v).isSome
  !entries.isEmpty && entries.all isDate

/-- The sum of a list, from the left. -/
def total (xs : List Float) : Float := xs.foldl (· + ·) (-0.0)

/-- The product of a list, from the left. -/
def multiplied (xs : List Float) : Float := xs.foldl (· * ·) 1.0

/-- The greater of two numbers, the second if they are equal. -/
def greater (x y : Float) : Float := if y < x then x else y

/-- The lesser of two numbers, the second if they are equal. -/
def lesser (x y : Float) : Float := if x < y then x else y

/-- A list reduced from the left, which is zero for the empty list. -/
def reduce (f : Float → Float → Float) : List Float → Float
  | [] => 0.0
  | x :: xs => xs.foldl f x

/-- The mean of a list that is not empty. -/
def mean (xs : List Float) : Float := total xs / Float.ofNat xs.length

/-- The sum of the squares of the distances to the mean, divided by the number of entries, or by one
less for a sample. -/
def variance (xs : List Float) (sample : Bool) : Except Error Float :=
  let count := xs.length
  if count = 0 || (sample && count < 2) then .error .divisionByZero
  else
    let m := mean xs
    let squares := total (xs.map fun x => (x - m) * (x - m))
    .ok (squares / Float.ofNat (if sample then count - 1 else count))

/-- A number as a moment, if it is wanted and stands for one. -/
def momentOrNumber (wanted : Bool) (x : Float) : Value :=
  match Moment.ofSerial? x with
  | some m => if wanted then .date m else .number x
  | none => .number x

/-- Reduces a list of values. -/
def Aggregate.apply (a : Aggregate) (vs : List Value) : Except Error Value :=
  let xs := numbers vs
  let like := momentOrNumber (allDates vs)
  match a with
  | .sum => .ok (like (total xs))
  | .average => if xs.isEmpty then .error .divisionByZero else .ok (like (mean xs))
  | .max => .ok (like (reduce greater xs))
  | .min => .ok (like (reduce lesser xs))
  | .count => .ok (.number (Float.ofNat xs.length))
  | .countAll => .ok (.number (Float.ofNat (vs.countP fun v => v.raw ≠ .empty)))
  | .product => .ok (.number (if xs.isEmpty then 0.0 else multiplied xs))
  | .var => (variance xs true).map .number
  | .varP => (variance xs false).map .number
  | .stdev => (variance xs true).map fun x => .number x.sqrt
  | .stdevP => (variance xs false).map fun x => .number x.sqrt

/-! ## Tests -/

example : Aggregate.ofCode? 109 = some (.sum, false) := by decide
example : Aggregate.ofCode? 100 = none := by decide
example : (Aggregate.sum.apply [.number 1.0, .text " 2 ", .boolean true]).toOption
    = some (.number 3.0) := by decide +kernel
example : (Aggregate.max.apply [.date ⟨⟨5⟩, 0, 0⟩, .empty]).toOption
    = some (.date ⟨⟨5⟩, 0, 0⟩) := by decide +kernel
example : (Aggregate.varP.apply [.number 1.0, .number 3.0]).toOption
    = some (.number 1.0) := by decide +kernel

end Spreadsheet.Value
