import Spreadsheet.Decimal.Integral
import Spreadsheet.Evaluation.Argument
import Spreadsheet.Evaluation.Context
import Spreadsheet.Text.Casing
import Spreadsheet.Text.Matching
import Spreadsheet.Value.Wildcard

/-!
# Functions on texts

Texts are measured in characters, and positions count from one.  A count may be
zero but not negative, and a position must be at least one.  Both lose their
fraction, and they may reach beyond the end of a text.
-/

namespace Spreadsheet.Functions

open Spreadsheet.Decimal (toUnsigned64 truncate toWhole)
open Spreadsheet.Evaluation (Argument Context Program argument numberAt optionalNumber textAt valueAt)
open Spreadsheet.Formula (Error)

/-- A count. -/
def countOf (function : String) (x : Float) : Except Error Nat :=
  if x < 0.0 then .error (.argument (.negativeCount function)) else .ok (toUnsigned64 x)

/-- A position, counted from zero. -/
def positionOf (function : String) (x : Float) : Except Error Nat :=
  if x < 1.0 then .error (.argument (.badPosition function)) else .ok (toUnsigned64 x - 1)

/-- A text as a result. -/
def textResult (cs : List Char) : Value := .text (String.ofList cs)

/-- The first characters of a text. -/
def left (arguments : List Argument) : Program Value := do
  let cs := (← textAt arguments 0).toList
  let n ← .ofExcept (countOf "LEFT" (← optionalNumber arguments 1 1.0))
  return textResult (cs.take n)

/-- The last characters of a text. -/
def right (arguments : List Argument) : Program Value := do
  let cs := (← textAt arguments 0).toList
  let n ← .ofExcept (countOf "RIGHT" (← optionalNumber arguments 1 1.0))
  return textResult (cs.drop (cs.length - n))

/-- A part of a text. -/
def mid (arguments : List Argument) : Program Value := do
  let cs := (← textAt arguments 0).toList
  let start ← .ofExcept (positionOf "MID" (← numberAt arguments 1))
  let n ← .ofExcept (countOf "MID" (← numberAt arguments 2))
  return textResult ((cs.drop start).take n)

/-- The number of characters of a text. -/
def len (arguments : List Argument) : Program Value := do
  return .number (Float.ofNat (← textAt arguments 0).toList.length)

/-- The position, counted from one, at which a search of the rest of a text comes to something. -/
def foundFrom (needle : String) (cs : List Char) (start : Nat)
    (search : List Char → Option Nat) : Program Value := do
  let offset := min start cs.length
  match search (← Program.entriesFrom cs offset) with
  | some i => do
    let before ← Program.entriesBefore cs (offset + i)
    return .number (Float.ofNat (before.length + 1))
  | none => .fail (.notFound needle)

/-- Where a text occurs in another. -/
def find (arguments : List Argument) : Program Value := do
  let needle ← textAt arguments 0
  let cs := (← textAt arguments 1).toList
  let start ← .ofExcept (positionOf "FIND" (← optionalNumber arguments 2 1.0))
  foundFrom needle cs start (Text.position? needle.toList)

/-- Where a pattern occurs in a text. -/
def search (arguments : List Argument) : Program Value := do
  let needle ← textAt arguments 0
  let cs := (← textAt arguments 1).toList
  let start ← .ofExcept (positionOf "SEARCH" (← optionalNumber arguments 2 1.0))
  let pattern ← .ofExcept (Value.searchPattern needle)
  foundFrom needle cs start (Text.Glob.find? pattern)

/-- A text with a part of it replaced. -/
def replace (arguments : List Argument) : Program Value := do
  let cs := (← textAt arguments 0).toList
  let start ← .ofExcept (positionOf "REPLACE" (← numberAt arguments 1))
  let n ← .ofExcept (countOf "REPLACE" (← numberAt arguments 2))
  let new ← textAt arguments 3
  return textResult (cs.take start ++ new.toList ++ cs.drop (start + n))

/-- A text with the occurrence of `old` replaced that `n` others precede. -/
def substituteNth (old new : List Char) (n : Nat) (s : String) : Program Value := do
  match Text.nthPosition? old 0 n s.toList with
  | some i => do
    let before ← Program.entriesBefore s.toList i
    let behind ← Program.entriesFrom s.toList (i + old.length)
    return textResult (before ++ new ++ behind)
  | none => return .text s

/-- A text with every occurrence of another one replaced, or only the one with a number. -/
def substitute (arguments : List Argument) : Program Value := do
  let s ← textAt arguments 0
  let old := (← textAt arguments 1).toList
  let new := (← textAt arguments 2).toList
  if old.isEmpty then return .text s
  else
    match arguments[3]? with
    | none => return textResult (Text.replaceAll old new 0 s.toList)
    | some a => do
      let n ← .ofExcept (positionOf "SUBSTITUTE" (← a.number))
      substituteNth old new n s

/-- The greatest length, in bytes, of a repeated text. -/
def maxRepeated : Nat := 32767

/-- A text repeated. -/
def rept (arguments : List Argument) : Program Value := do
  let s ← textAt arguments 0
  let n ← .ofExcept (countOf "REPT" (← numberAt arguments 1))
  if s.utf8ByteSize * n ≤ maxRepeated then
    let times := if s.isEmpty then 0 else n
    return textResult (List.replicate times s.toList).flatten
  else .fail (.argument (.tooLong maxRepeated))

/-- A function of one text. -/
def mapText (f : String → String) (arguments : List Argument) : Program Value := do
  return .text (f (← textAt arguments 0))

/-- A text in which each letter after another one is in lower case and all others in upper case.
`inWord` says whether a letter comes before it. -/
def capitalize (inWord : Bool) : List Char → List Char
  | [] => []
  | c :: cs =>
    if Text.isAlphabetic c then
      (if inWord then Text.lowerChar c else Text.upperChar c) ++ capitalize true cs
    else c :: capitalize false cs

/-- A text with capital initials. -/
def proper (s : String) : String := String.ofList (capitalize false s.toList)

/-- A text without white space at its ends, in which no two spaces follow each other. -/
def tidy (s : String) : String := String.ofList (Text.collapseSpaces (Text.trim s).toList)

/-- The texts of all arguments, one after the other. -/
def concatenated : List Argument → Program String
  | [] => return ""
  | a :: rest => do
    let s ← a.text
    return s ++ (← concatenated rest)

/-- Texts one after the other. -/
def concatenate (arguments : List Argument) : Program Value := do
  return .text (← concatenated arguments)

/-- The character with a code. -/
def char (arguments : List Argument) : Program Value := do
  let code := truncate (← numberAt arguments 0)
  if code < 1.0 then .fail (.argument .noCharacterCode)
  else
    let n := (toWhole 0 4294967295 code).toNat
    if n.isValidChar then return .text (String.singleton (Char.ofNat n))
    else .fail (.argument (.characterCode code))

/-- The code of the first character of a text. -/
def code (arguments : List Argument) : Program Value := do
  match (← textAt arguments 0).toList with
  | c :: _ => return .number (Float.ofNat c.toNat)
  | [] => .fail (.argument .noCharacter)

/-- A value in a display format of the host. -/
def formatText (c : Context) (arguments : List Argument) : Program Value := do
  let v ← valueAt arguments 0
  let format ← textAt arguments 1
  return .text (c.render v.raw format)

/-- The number that a text reads as, which may be the serial number of a moment. -/
def numericText (s : String) : Except Error Value :=
  let s := Text.trim s
  match Value.readNumber? s with
  | some x => .ok (.number x)
  | none =>
    match Calendar.Moment.read? s with
    | some m => .ok (.number m.serial)
    | none => .error (.argument (.notNumeric s))

/-- A value as a number. -/
def valueOfText (arguments : List Argument) : Program Value := do
  let v ← valueAt arguments 0
  match v.raw with
  | .text s => .ofExcept (numericText s)
  | _ => .ofExcept (v.expectNumber.map .number)

/-- A value if it is a text, and an empty text otherwise. -/
def onlyText (arguments : List Argument) : Program Value := do
  match (← valueAt arguments 0).raw with
  | .text s => return .text s
  | _ => return .text ""

/-- Whether two texts are the same, also in case. -/
def exact (arguments : List Argument) : Program Value := do
  let a ← textAt arguments 0
  let b ← textAt arguments 1
  return .boolean (a == b)

end Spreadsheet.Functions
