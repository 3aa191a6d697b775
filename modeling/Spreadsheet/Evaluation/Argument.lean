import Spreadsheet.Evaluation.Program

/-!
# Arguments

A function takes its arguments before they are computed and decides what to do
with each.  An argument is either a reference that is written in the formula or
something that has to be computed, and the result of that may again be a
reference.  As an *operand* both kinds of reference are a range.  As a value, a
range gives its first cell, and as a list of values all of its cells.
-/

namespace Spreadsheet.Evaluation

open Spreadsheet.Formula (Error Reference)

/-- An argument of a function. -/
inductive Argument where
  /-- A reference written in the formula. -/
  | written (r : Reference)
  /-- Something to compute. -/
  | computed (p : Program Value)

/-- An argument that has been computed as far as it takes to tell ranges from values. -/
inductive Operand where
  /-- A range. -/
  | range (r : Reference)
  /-- A value that is no reference. -/
  | value (v : Value)
deriving DecidableEq

/-- A computed value as an operand. -/
def Operand.ofValue : Value → Operand
  | .reference r => .range r
  | v => .value v

namespace Argument

/-- The argument computed like a formula of its own.  A written reference is read, but a computed
one stays as it is. -/
def result : Argument → Program Value
  | .written r => .cell r
  | .computed p => p

/-- The argument as an operand. -/
def operand : Argument → Program Operand
  | .written r => .done (.range r)
  | .computed p => do return .ofValue (← p)

/-- The argument as one value. -/
def value (a : Argument) : Program Value := do
  match ← a.operand with
  | .range r => .cell r
  | .value v => return v

/-- The argument as a number. -/
def number (a : Argument) : Program Float := do
  .ofExcept (← a.value).expectNumber

/-- The argument as a text. -/
def text (a : Argument) : Program String := do
  return (← a.value).asText

/-- The argument as a truth value. -/
def boolean (a : Argument) : Program Bool := do
  .ofExcept (← a.value).toBoolean

/-- The argument as a moment. -/
def moment (a : Argument) : Program Calendar.Moment := do
  .ofExcept (← a.value).toMoment

/-- The argument as a range, which the named function needs. -/
def reference (a : Argument) (function : String) : Program Reference := do
  match ← a.operand with
  | .range r => return r
  | .value v => .fail (.argument (.noRange function v.asText))

/-- The argument as a list of values, of which one that is no range is the only one. -/
def values (a : Argument) (includeHidden : Bool) : Program (List Value) := do
  match ← a.operand with
  | .range r => .cells r includeHidden
  | .value v => return [v.raw]

end Argument

/-- The argument at a position, which the function must have been given. -/
def argument (arguments : List Argument) (i : Nat) : Program Argument :=
  match arguments[i]? with
  | some a => .done a
  | none => .fail .missingArgument

/-- The number at a position, or another one where there is no argument. -/
def optionalNumber (arguments : List Argument) (i : Nat) (default : Float) : Program Float :=
  match arguments[i]? with
  | some a => a.number
  | none => .done default

/-- The number at a position. -/
def numberAt (arguments : List Argument) (i : Nat) : Program Float := do
  (← argument arguments i).number

/-- The text at a position. -/
def textAt (arguments : List Argument) (i : Nat) : Program String := do
  (← argument arguments i).text

/-- The value at a position. -/
def valueAt (arguments : List Argument) (i : Nat) : Program Value := do
  (← argument arguments i).value

end Spreadsheet.Evaluation
