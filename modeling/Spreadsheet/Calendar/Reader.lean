import Spreadsheet.Calendar.Moment
import Spreadsheet.Decimal.Reader
import Spreadsheet.Text.Blank
import Spreadsheet.Text.CaseMap

/-!
# Reading a date

A text is tried with eleven layouts, first the six with a time and then the
five without.  The first layout that takes the whole text and names a date that
exists gives the result, so the order decides between month and day: `1/2/20`
is a day of the year 1, as the layout that begins with the year comes first.

A layout is a list of fields.  A field for a number skips white space first and
takes one or two digits.  A year takes up to four, or any number after a sign.
A space stands for white space of any length, also none.
-/

namespace Spreadsheet.Calendar

open Spreadsheet.Text (isDigit trimStart trim asciiLower)

/-- A part of a layout. -/
inductive Field where
  /-- The year. -/
  | year
  /-- The month as a number. -/
  | month
  /-- The name of the month, or its first three letters. -/
  | monthName
  /-- The day of the month. -/
  | day
  /-- The hour, from 0 to 23. -/
  | hour
  /-- The minute. -/
  | minute
  /-- The second, up to 60. -/
  | second
  /-- White space of any length. -/
  | blank
  /-- A character as it is. -/
  | mark (c : Char)
deriving DecidableEq, Repr

/-- What has been read so far. -/
structure Parts where
  /-- The year. -/
  year : Int := 0
  /-- The month. -/
  month : Nat := 0
  /-- The day. -/
  day : Nat := 0
  /-- The hour. -/
  hour : Nat := 0
  /-- The minute. -/
  minute : Nat := 0
  /-- The second. -/
  second : Nat := 0

/-- Every year of the calendar is nearer to the year zero than this one. -/
def yearLimit : Nat := 262144

/-- The number at the start of a text, of at least one and at most `width` digits.  It is read up to
`yearLimit`. -/
def takeNumber? (width : Nat) (cs : List Char) : Option (Nat × List Char) :=
  let digits := (cs.take width).takeWhile isDigit
  if digits.isEmpty then none else some (Decimal.numberBelow yearLimit 0 digits, cs.drop digits.length)

/-- The year at the start of a text. -/
def takeYear? (cs : List Char) : Option (Int × List Char) :=
  match cs with
  | '-' :: rest => (takeNumber? rest.length rest).map fun (n, rest) => (-(n : Int), rest)
  | '+' :: rest => (takeNumber? rest.length rest).map fun (n, rest) => ((n : Int), rest)
  | _ => (takeNumber? 4 cs).map fun (n, rest) => ((n : Int), rest)

/-- The names of the months, as their first three letters and what follows them. -/
def monthNames : List (String × String) := [("jan", "uary"), ("feb", "ruary"), ("mar", "ch"),
  ("apr", "il"), ("may", ""), ("jun", "e"), ("jul", "y"), ("aug", "ust"), ("sep", "tember"),
  ("oct", "ober"), ("nov", "ember"), ("dec", "ember")]

/-- A text without a word at its start, apart from the case of ASCII letters. -/
def dropWord? (word : String) (cs : List Char) : Option (List Char) :=
  if (cs.take word.length).map asciiLower = word.toList then some (cs.drop word.length) else none

/-- The month whose name starts a text, in full if it can be. -/
def takeMonthName? (cs : List Char) : Option (Nat × List Char) :=
  monthNames.zipIdx.findSome? fun ((start, suffix), i) =>
    (dropWord? start cs).map fun rest => (i + 1, (dropWord? suffix rest).getD rest)

/-- Reads one field. -/
def Field.read? (p : Parts) (cs : List Char) : Field → Option (Parts × List Char)
  | .year => (takeYear? (trimStart cs)).map fun (n, rest) => ({ p with year := n }, rest)
  | .month => (takeNumber? 2 (trimStart cs)).map fun (n, rest) => ({ p with month := n }, rest)
  | .monthName => (takeMonthName? cs).map fun (n, rest) => ({ p with month := n }, rest)
  | .day => (takeNumber? 2 (trimStart cs)).map fun (n, rest) => ({ p with day := n }, rest)
  | .hour => (takeNumber? 2 (trimStart cs)).map fun (n, rest) => ({ p with hour := n }, rest)
  | .minute => (takeNumber? 2 (trimStart cs)).map fun (n, rest) => ({ p with minute := n }, rest)
  | .second => (takeNumber? 2 (trimStart cs)).map fun (n, rest) => ({ p with second := n }, rest)
  | .blank => some (p, trimStart cs)
  | .mark c =>
    match cs with
    | d :: rest => if c = d then some (p, rest) else none
    | [] => none

/-- Reads the fields of a layout one after the other, up to the end of the text. -/
def readFields? : List Field → Parts → List Char → Option Parts
  | [], p, cs => if cs.isEmpty then some p else none
  | f :: fs, p, cs =>
    match f.read? p cs with
    | some (p, rest) => readFields? fs p rest
    | none => none

/-- The moment that the parts name, if there is one. -/
def Parts.moment? (p : Parts) : Option Moment :=
  if p.hour < 24 && p.minute < 60 && p.second ≤ 60 then
    (Date.ofCivil? p.year p.month p.day).map fun date =>
      let minutes := p.hour * 60 + p.minute
      if p.second = 60 then ⟨date, minutes * 60 + 59, 1000000000⟩
      else ⟨date, minutes * 60 + p.second, 0⟩
  else none

/-- The three fields of a date with a mark between them. -/
def dateWith (mark : Char) (a b c : Field) : List Field := [a, .mark mark, b, .mark mark, c]

/-- The hour and the minute. -/
def timeFields : List Field := [.hour, .mark ':', .minute]

/-- The hour, the minute and the second. -/
def longTimeFields : List Field := timeFields ++ [.mark ':', .second]

/-- The layouts in the order in which they are tried. -/
def layouts : List (List Field) := [
  dateWith '-' .year .month .day ++ .blank :: longTimeFields,
  dateWith '-' .year .month .day ++ .mark 'T' :: longTimeFields,
  dateWith '-' .year .month .day ++ .blank :: timeFields,
  dateWith '/' .year .month .day ++ .blank :: longTimeFields,
  dateWith '/' .month .day .year ++ .blank :: longTimeFields,
  dateWith '/' .month .day .year ++ .blank :: timeFields,
  dateWith '-' .year .month .day,
  dateWith '/' .year .month .day,
  dateWith '/' .month .day .year,
  [.day, .blank, .monthName, .blank, .year],
  [.monthName, .blank, .day, .mark ',', .blank, .year]]

/-- Reads a date, with or without a time, in the first layout that fits. -/
def Moment.read? (s : String) : Option Moment :=
  let cs := (trim s).toList
  layouts.findSome? fun fields => (readFields? fields {} cs).bind Parts.moment?

/-! ## Tests -/

example : Moment.read? "2024-02-29" = some ⟨⟨45351⟩, 0, 0⟩ := by decide +kernel
example : Moment.read? " 2/29/2024 13:45 " = some ⟨⟨45351⟩, 49500, 0⟩ := by decide +kernel
example : Moment.read? "29 feb 2024" = some ⟨⟨45351⟩, 0, 0⟩ := by decide +kernel
example : Moment.read? "February 29, 2024" = some ⟨⟨45351⟩, 0, 0⟩ := by decide +kernel
example : Moment.read? "1/2/20" = (Date.ofCivil? 1 2 20).map .midnight := by decide +kernel
example : Moment.read? "2023-02-29" = none := by decide +kernel
example : Moment.read? "2024-02-29 00:00:60" = some ⟨⟨45351⟩, 59, 1000000000⟩ := by decide +kernel

end Spreadsheet.Calendar
