import Spreadsheet.Calendar.Layout
import Spreadsheet.Decimal.Shortest

/-!
# What a cell holds

A cell holds a constant or a formula.  A formula is its text: computing it is
not the grid's business.
-/

namespace Spreadsheet.Grid

open Spreadsheet.Calendar (Moment)

/-- What a cell holds. -/
inductive Content where
  /-- Nothing. -/
  | empty
  /-- A truth value. -/
  | boolean (b : Bool)
  /-- A number. -/
  | number (x : Float)
  /-- A text. -/
  | text (s : String)
  /-- A moment. -/
  | date (m : Moment)
  /-- The text of a formula, with the `=` in front. -/
  | formula (s : String)
deriving DecidableEq

instance : Inhabited Content := ⟨.empty⟩

namespace Content

/-- Whether there is nothing. -/
def isEmpty : Content → Bool
  | .empty => true
  | _ => false

/-- The text of a formula. -/
def formula? : Content → Option String
  | .formula s => some s
  | _ => none

/-- The number, where there is one. -/
def number? : Content → Option Float
  | .number x => some x
  | _ => none

/-- The name of the kind of content. -/
def kind : Content → String
  | .empty => "empty"
  | .boolean _ => "boolean"
  | .number _ => "number"
  | .text _ => "string"
  | .date _ => "date"
  | .formula _ => "formula"

/-- The text in which a grid shows the content. -/
def display : Content → String
  | .empty => ""
  | .boolean b => if b then "TRUE" else "FALSE"
  | .number x => Decimal.text x
  | .text s => s
  | .date m => m.gridText
  | .formula s => s

end Content

end Spreadsheet.Grid
