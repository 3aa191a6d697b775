import Spreadsheet.Grid.Range
import Spreadsheet.Text.Occurrence

/-!
# References

A reference is a range on a sheet.  Without a sheet name it means the sheet of
the formula it stands in.  In text the name comes first, with a `!` behind it,
and in single quotes unless it has letters, digits and underscores alone.  A
quote in a quoted name is written twice.

Reading a reference looks for the `!` and the `:` outside quotes only.  Both
corners of a range may name the sheet, as long as they name the same one.
-/

namespace Spreadsheet.Formula

open Spreadsheet.Grid (Range Address)
open Spreadsheet.Text (isAlphanumeric)

/-- A range on a sheet. -/
structure Reference where
  /-- The range. -/
  range : Range
  /-- The name of the sheet, if it is not the one of the formula. -/
  sheet : Option String := none
deriving DecidableEq, Repr

/-- The mark around a quoted sheet name. -/
def apostrophe : Char := '\x27'

/-- A name with each quote in it written twice. -/
def doubled (cs : List Char) : List Char :=
  cs.flatMap fun c => if c = apostrophe then [apostrophe, apostrophe] else [c]

/-- A name in quotes. -/
def quoted (cs : List Char) : List Char := apostrophe :: doubled cs ++ [apostrophe]

/-- Whether a sheet name is written without quotes. -/
def isPlainName (cs : List Char) : Bool := cs.all fun c => isAlphanumeric c || c = '_'

namespace Reference

/-- The same sheet with another range. -/
def withRange (r : Reference) (range : Range) : Reference := { r with range := range }

/-- The text of a reference. -/
def text (r : Reference) : String :=
  match r.sheet with
  | none => r.range.text
  | some name =>
    let cs := name.toList
    String.ofList (if isPlainName cs then cs else quoted cs) ++ "!" ++ r.range.text

/-- The parts of a text between the marks that stand outside quotes. -/
def splitUnquoted (mark : Char) (inside : Bool) : List Char → List (List Char)
  | [] => [[]]
  | c :: cs =>
    if c = mark && !inside then [] :: splitUnquoted mark false cs
    else
      match splitUnquoted mark (if c = apostrophe then !inside else inside) cs with
      | part :: parts => (c :: part) :: parts
      | [] => [[c]]

/-- A sheet name without the quotes around it. -/
def unquoted (cs : List Char) : List Char :=
  match cs with
  | c :: rest =>
    if c = apostrophe && rest.getLast? = some apostrophe then
      Text.replaceAll [apostrophe, apostrophe] [apostrophe] 0 rest.dropLast
    else cs
  | [] => cs

/-- The sheet name in front of an address, and the address.  A text with more than one `!`, or with
nothing in front of it, is refused. -/
def splitSheet (cs : List Char) : Except String (Option String × List Char) :=
  match splitUnquoted '!' false cs with
  | [name, address] =>
    if name.isEmpty then .error (String.ofList cs)
    else .ok (some (String.ofList (unquoted name)), address)
  | [_] => .ok (none, cs)
  | _ => .error (String.ofList cs)

/-- One corner of a range with its sheet name.  No result means that it is no address. -/
def readCorner (cs : List Char) : Except String (Option (Option String × Address)) :=
  match splitSheet cs with
  | .error text => .error text
  | .ok (sheet, address) =>
    match Address.read (String.ofList address) with
    | .ok a => .ok (some (sheet, a))
    | .error _ => .ok none

/-- Reads a reference.  No result means that the text has not the form of one.  It is refused, with
the part at fault, when it has the form and the sheet name is wrong. -/
def read (cs : List Char) : Except String (Option Reference) :=
  match splitUnquoted ':' false cs with
  | [only] =>
    (readCorner only).map fun corner =>
      corner.map fun (sheet, a) => ⟨.single a, sheet⟩
  | [first, second] =>
    match readCorner first with
    | .error text => .error text
    | .ok none => .ok none
    | .ok (some (sheet, a)) =>
      match readCorner second with
      | .error text => .error text
      | .ok none => .ok none
      | .ok (some (sheet', b)) =>
        if sheet.isSome && sheet'.isSome && sheet ≠ sheet' then .error (String.ofList cs)
        else .ok (some ⟨.ofCorners a b, sheet.or sheet'⟩)
  | _ => .ok none

/-! ## Tests -/

example : splitUnquoted '!' false "'a!b'!c".toList = ["'a!b'".toList, ['c']] := by decide +kernel
example : ((read "'Bob''s'!B2:A1".toList).toOption.join).map text = some "'Bob''s'!A1:B2" := by
  decide +kernel
example : (read "A1:B2:C3".toList).toOption = some none := by decide +kernel
example : (read "a!A1:b!B2".toList).toOption = none := by decide +kernel

end Reference

end Spreadsheet.Formula
