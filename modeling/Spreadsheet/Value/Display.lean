import Spreadsheet.Decimal.Fixed
import Spreadsheet.Value.Coercion

/-!
# Display formats

A format is a letter, in either case, and a number of digits behind it.

* `n` writes a number with commas between its thousands.
* `f` writes it without them.
* `c` writes it with commas as an amount of dollars.
* `p` writes a hundred times the number, with commas, as a percentage.
* `d`, `t` and `g` write a moment as its date, its time, or both.  They take no
  digits.

Without digits a number has two places.  A minus sign is written only where a
digit other than zero follows it.  A format that is none of these, or does not
suit the value, leaves the text of the value as it is.
-/

namespace Spreadsheet.Value

open Spreadsheet.Decimal (fixed)
open Spreadsheet.Text (isDigit asciiLower)

/-- The number of places when a format names none. -/
def defaultPlaces : Nat := 2

/-- A number of places is below this number, two to the power of 64. -/
def placesLimit : Nat := 18446744073709551616

/-- The number of places that a format names, if it is in bounds. -/
def readPlaces? (cs : List Char) : Option Nat :=
  let digits := if cs.head? = some '+' then cs.tail else cs
  let n := Decimal.numberBelow placesLimit 0 digits
  if cs.isEmpty then some defaultPlaces
  else if digits.isEmpty || !digits.all isDigit then none
  else if n < placesLimit then some n
  else none

/-- Whether a number still shows as negative with so many places. -/
def showsNegative (x : Float) (places : Nat) : Bool :=
  x < 0.0 && (fixed places x).any fun c => '1' ≤ c && c ≤ '9'

/-- Digits with a comma before each group of three that others precede. -/
def groupThousands : List Char → List Char
  | [] => []
  | c :: cs =>
    if cs.length % 3 = 0 && !cs.isEmpty then c :: ',' :: groupThousands cs
    else c :: groupThousands cs

/-- A number without its sign, with or without commas. -/
def magnitudeText (x : Float) (places : Nat) (grouping : Bool) : List Char :=
  let digits := fixed places x
  let whole := digits.takeWhile (· ≠ '.')
  (if grouping then groupThousands whole else whole) ++ digits.dropWhile (· ≠ '.')

/-- The minus sign of a number, where it shows as negative. -/
def signText (x : Float) (places : Nat) : List Char :=
  if showsNegative x places then ['-'] else []

/-- A number in one of the four number formats. -/
def numberDisplay (kind : Char) (x : Float) (places : Nat) : String :=
  String.ofList <|
    if kind = 'p' then
      signText (x * 100.0) places ++ magnitudeText (x * 100.0) places true ++ ['%']
    else if kind = 'c' then signText x places ++ '$' :: magnitudeText x places true
    else signText x places ++ magnitudeText x places (kind = 'n')

/-- A moment in one of the three date formats. -/
def momentDisplay (kind : Char) (m : Calendar.Moment) : String :=
  String.ofList <|
    if kind = 'd' then m.shortDate else if kind = 't' then m.shortTime else m.shortDateTime

/-- The text of a value in a display format. -/
def display (v : Value) (format : String) : String :=
  let v := v.raw
  match format.toList with
  | [] => v.asText
  | letter :: digits =>
    let kind := asciiLower letter
    if v.isNumber then
      if (kind = 'd' || kind = 't' || kind = 'g') && digits.isEmpty then
        match v.toMoment with
        | .ok m => momentDisplay kind m
        | .error _ => v.asText
      else if kind = 'n' || kind = 'f' || kind = 'c' || kind = 'p' then
        match readPlaces? digits with
        | some places => numberDisplay kind v.toNumber places
        | none => v.asText
      else v.asText
    else v.asText

/-! ## Tests -/

example : (Value.number 1234.5).display "n2" = "1,234.50" := by decide +kernel
example : (Value.number (-0.001)).display "N" = "0.00" := by decide +kernel
example : (Value.number (-1234.5)).display "c1" = "-$1,234.5" := by decide +kernel
example : (Value.number 0.1234).display "p1" = "12.3%" := by decide +kernel
example : (Value.number 45351.0).display "d" = "2/29/2024" := by decide +kernel
example : (Value.text "x").display "n2" = "x" := by decide +kernel

end Spreadsheet.Value
