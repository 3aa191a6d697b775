import Spreadsheet.Calendar.Moment
import Spreadsheet.Formula.Reference
import Spreadsheet.Grid.Content

/-!
# Values of formulas

A formula gives a number, a text, a truth value, a moment or nothing.  Besides
these *primitive* values there are two that carry something for whoever uses
them: a *formatted* value says in which format it wants to be displayed, and a
*reference* stands for cells that have not been read yet.

The format is dropped wherever only the value counts.  That is `raw`.
-/

namespace Spreadsheet

open Spreadsheet.Calendar (Moment)
open Spreadsheet.Formula (Reference)
open Spreadsheet.Grid (Content)

/-- What a formula gives. -/
inductive Value where
  /-- Nothing. -/
  | empty
  /-- A number. -/
  | number (x : Float)
  /-- A text. -/
  | text (s : String)
  /-- A truth value. -/
  | boolean (b : Bool)
  /-- A moment. -/
  | date (m : Moment)
  /-- A value with the format to display it in. -/
  | formatted (v : Value) (format : String)
  /-- Cells that have not been read. -/
  | reference (r : Reference)
deriving DecidableEq

instance : Inhabited Value := ⟨.empty⟩

namespace Value

/-- The value without the formats around it. -/
def raw : Value → Value
  | .formatted v _ => v.raw
  | v => v

/-- The format a value carries. -/
def format? : Value → Option String
  | .formatted _ format => some format
  | _ => none

/-- Whether a value is neither formatted nor a reference. -/
def isPrimitive : Value → Bool
  | .formatted .. => false
  | .reference _ => false
  | _ => true

/-- Whether the raw value is a moment. -/
def isDate (v : Value) : Bool :=
  match v.raw with
  | .date _ => true
  | _ => false

/-- Whether the raw value is a moment or a number other than NaN. -/
def isNumber (v : Value) : Bool :=
  match v.raw with
  | .number x => !x.isNaN
  | .date _ => true
  | _ => false

/-- Whether the raw value is nothing, an empty text or NaN. -/
def isBlank (v : Value) : Bool :=
  match v.raw with
  | .empty => true
  | .text s => s.isEmpty
  | .number x => x.isNaN
  | _ => false

/-- What a cell holds, as a value.  A formula counts as its text. -/
def ofContent : Content → Value
  | .empty => .empty
  | .boolean b => .boolean b
  | .number x => .number x
  | .text s => .text s
  | .date m => .date m
  | .formula s => .text s

end Value

end Spreadsheet
