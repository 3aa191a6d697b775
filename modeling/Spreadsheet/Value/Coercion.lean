import Spreadsheet.Calendar.Layout
import Spreadsheet.Calendar.Reader
import Spreadsheet.Formula.Error
import Spreadsheet.Value.Basic
import Spreadsheet.Value.Numeral

/-!
# Values as numbers, texts, truth values and moments

Every value has a text.  As a number, a truth value counts 1 or 0, a moment its
serial number and nothing 0.  A text counts the number it reads as, 0 when it
is blank, and NaN otherwise.  A function that needs a number refuses NaN.
-/

namespace Spreadsheet.Value

open Spreadsheet.Calendar (Moment)
open Spreadsheet.Formula (Error)
open Spreadsheet.Text (trim asciiLower)

/-- NaN. -/
def nan : Float := 0.0 / 0.0

/-- The number a text counts. -/
def numberOfText (s : String) : Float :=
  let s := trim s
  if s.isEmpty then 0.0 else (readNumber? s).getD nan

/-- The number a value counts. -/
def toNumber (v : Value) : Float :=
  match v.raw with
  | .empty => 0.0
  | .number x => x
  | .boolean b => if b then 1.0 else 0.0
  | .date m => m.serial
  | .text s => numberOfText s
  | .formatted .. => nan
  | .reference _ => nan

/-- The text of a value. -/
def asText : Value → String
  | .empty => ""
  | .number x => numberText x
  | .text s => s
  | .boolean b => if b then "TRUE" else "FALSE"
  | .date m => m.text
  | .formatted v _ => v.asText
  | .reference r => r.text

/-- The number a value counts, which must not be NaN. -/
def expectNumber (v : Value) : Except Error Float :=
  let x := v.toNumber
  if x.isNaN then .error (.argument (.noNumber v.asText)) else .ok x

/-- Whether a text is a word of ASCII letters, apart from case. -/
def isWord (word s : String) : Bool := s.toList.map asciiLower == word.toList

/-- The truth value of a value.  Text must be a truth value, a number or blank. -/
def toBoolean (v : Value) : Except Error Bool :=
  match v.raw with
  | .boolean b => .ok b
  | .text s =>
    let s := trim s
    if isWord "true" s then .ok true
    else if isWord "false" s || s.isEmpty then .ok false
    else
      match readNumber? s with
      | some x => .ok (x != 0.0)
      | none => .error (.argument (.noBoolean s))
  | raw => .ok (raw.toNumber != 0.0)

/-- The moment of a value.  A number is a serial number, also as text. -/
def toMoment (v : Value) : Except Error Moment :=
  let found :=
    match v.raw with
    | .date m => some m
    | .text s => (Moment.read? s).or ((readNumber? (trim s)).bind Moment.ofSerial?)
    | raw => Moment.ofSerial? raw.toNumber
  match found with
  | some m => .ok m
  | none => .error (.argument (.noDate v.raw.asText))

/-! ## Tests -/

example : (Value.formatted (.text " 5% ") "n2").toNumber = 0.05 := by decide +kernel
example : (Value.text "TRUE").toBoolean.toOption = some true := by decide +kernel
example : (Value.text "x").toBoolean.toOption = none := by decide +kernel
example : Value.empty.toMoment.toOption = some ⟨⟨0⟩, 0, 0⟩ := by decide +kernel

end Spreadsheet.Value
