import Spreadsheet.Decimal.Integral
import Spreadsheet.Evaluation.Argument
import Spreadsheet.Evaluation.Context
import Spreadsheet.Value.Lookup

/-!
# Functions on ranges

Some of these functions only measure a range and never read it.  `INDEX` and
`CHOOSE` give references, so that a function around them can read as many of
the cells as it needs.  The lookups read a line of keys first and a line of
results afterwards.
-/

namespace Spreadsheet.Functions

open Spreadsheet.Decimal (toSigned64 toUnsigned64 truncate)
open Spreadsheet.Evaluation (Argument Context Program argument numberAt optionalNumber valueAt)
open Spreadsheet.Formula (Error Reference)
open Spreadsheet.Grid (Range)

/-- A measure of a range. -/
def measure (function : String) (f : Range → Nat) (arguments : List Argument) : Program Value := do
  let r ← (← argument arguments 0).reference function
  return .number (Float.ofNat (f r.range))

/-- An index of a range or, without one, of the cell that the formula belongs to. -/
def indexOf (function : String) (f : Range → Nat) (caller : Option Nat)
    (arguments : List Argument) : Program Value := do
  let i ← match arguments[0]? with
    | some a => do pure (f (← a.reference function).range)
    | none =>
      match caller with
      | some i => pure i
      | none => .fail (.argument (.noCaller function))
  return .number (Float.ofNat (i + 1))

/-- One of several values, chosen by its number.  A reference is not read. -/
def choose (arguments : List Argument) : Program Value := do
  let i := truncate (← numberAt arguments 0)
  if i < 1.0 || arguments.length ≤ toUnsigned64 i then
    .fail (.indexOutOfRange (.choice i (arguments.length - 1)))
  else
    match ← (← argument arguments (toUnsigned64 i)).operand with
    | .range r => return .reference r
    | .value v => return v

/-- A number from 1 to a span as an index from zero.  Zero is no index and means all of the span. -/
def indexWithin (name : String) (x : Float) (span : Nat) : Except Error (Option (Fin span)) :=
  let x := truncate x
  let n := toUnsigned64 x
  if x < 0.0 then .error (.indexOutOfRange (.outsideRange name x span))
  else if h : n - 1 < span ∧ n ≤ span then .ok (if n = 0 then none else some ⟨n - 1, h.1⟩)
  else .error (.indexOutOfRange (.outsideRange name x span))

/-- A range without its other rows and columns.  An index that is missing keeps all of them. -/
def narrowRange (r : Range) (row : Option (Fin r.rows)) (column : Option (Fin r.columns)) : Range :=
  match row, column with
  | none, none => r
  | some i, none => r.row i i.isLt
  | none, some j => r.column j j.isLt
  | some i, some j => (r.row i i.isLt).column j j.isLt

/-- A part of a range: a cell, a row or a column. -/
def index (arguments : List Argument) : Program Value := do
  let r ← (← argument arguments 0).reference "INDEX"
  let row ← .ofExcept (indexWithin "INDEX row" (← numberAt arguments 1) r.range.rows)
  let column ← .ofExcept
    (indexWithin "INDEX column" (← optionalNumber arguments 2 0.0) r.range.columns)
  return .reference (r.withRange (narrowRange r.range row column))

/-- The direction in which a table is searched. -/
inductive Axis where
  /-- The keys are in the first row. -/
  | horizontal
  /-- The keys are in the first column. -/
  | vertical
deriving DecidableEq, Repr

/-- The number of lines of a table. -/
def Axis.depth (a : Axis) (r : Range) : Nat :=
  match a with
  | .horizontal => r.rows
  | .vertical => r.columns

/-- A line of a table. -/
def Axis.line (a : Axis) (r : Range) (i : Nat) (h : i < a.depth r) : Range :=
  match a with
  | .horizontal => r.row i h
  | .vertical => r.column i h

/-- A table has a first line. -/
theorem Axis.depth_pos (a : Axis) (r : Range) : 0 < a.depth r := by
  cases a <;> simp [Axis.depth, Range.rows, Range.columns]

/-- The position that a lookup finds among keys, where an approximate one may fall back on a sorted
search. -/
def lookupPosition? (sought : Value) (approximate : Bool) (keys : List Value) :
    Except Error (Option Nat) := do
  match ← Value.exactPosition? sought keys with
  | some i => return some i
  | none => return if approximate then Value.sortedPosition? sought .gt keys else none

/-- A value looked up in a table. -/
def tableLookup (function : String) (axis : Axis) (arguments : List Argument) : Program Value := do
  let sought := (← valueAt arguments 0).raw
  let table ← (← argument arguments 1).reference function
  let i := truncate (← numberAt arguments 2)
  let approximate ← match arguments[3]? with
    | some a => a.boolean
    | none => pure true
  let line := toUnsigned64 i
  if h : ¬ i < 1.0 ∧ line - 1 < axis.depth table.range ∧ line ≤ axis.depth table.range then
    let keys ← Program.cells
      (table.withRange (axis.line table.range 0 (axis.depth_pos table.range))) true
    match ← .ofExcept (lookupPosition? sought approximate keys) with
    | none => .fail (.notFound sought.asText)
    | some position => do
      let results ← Program.cells
        (table.withRange (axis.line table.range (line - 1) h.2.1)) true
      match results[position]? with
      | some v => return v
      | none => .fail (.notFound sought.asText)
  else .fail (.indexOutOfRange (.outsideRange function i (axis.depth table.range)))

/-- The way a number tells to match: exactly, or among keys that rise or fall. -/
def matchPosition? (sought : Value) (type : Int) (keys : List Value) : Except Error (Option Nat) :=
  if type = 0 then Value.exactPosition? sought keys
  else if type = 1 then .ok (Value.sortedPosition? sought .gt keys)
  else if type = -1 then .ok (Value.sortedPosition? sought .lt keys)
  else .error (.argument (.matchType type))

/-- Where a value stands in a range. -/
def position (arguments : List Argument) : Program Value := do
  let sought := (← valueAt arguments 0).raw
  let r ← (← argument arguments 1).reference "MATCH"
  let type := toSigned64 (← optionalNumber arguments 2 1.0)
  let keys ← Program.cells r true
  match ← .ofExcept (matchPosition? sought type keys) with
  | some i => return .number (Float.ofNat (i + 1))
  | none => .fail (.notFound sought.asText)

end Spreadsheet.Functions
