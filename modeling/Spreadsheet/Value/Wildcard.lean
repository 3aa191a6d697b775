import Spreadsheet.Formula.Error
import Spreadsheet.Text.Automaton
import Spreadsheet.Text.Pattern

/-!
# Texts used as patterns

A text with wildcards is a pattern that a whole text has to match, or one that
is looked for in a text.  Either may be refused: for its size, and a search
pattern also when it ends in `$`.  The size for a whole text is looked at
first, in both cases.
-/

namespace Spreadsheet.Value

open Spreadsheet.Formula (Error)
open Spreadsheet.Text (Piece Glob.ofText Automaton.fits searchReport?)

/-- The refusal of a pattern that is too large. -/
def checkSize (isOpen : Bool) (pieces : List Piece) : Except Error Unit :=
  if Automaton.fits isOpen pieces then .ok () else .error (.argument .patternTooLarge)

/-- The pattern that whole texts have to match. -/
def wholePattern (s : String) : Except Error (List Piece) := do
  let pieces := Glob.ofText s
  checkSize false pieces
  return pieces

/-- The pattern to look for in a text. -/
def searchPattern (s : String) : Except Error (List Piece) := do
  let pieces ← wholePattern s
  match searchReport? s with
  | some report => throw (.argument (.badPattern report))
  | none =>
    checkSize true pieces
    return pieces

/-! ## Tests -/

example : (wholePattern "a*").toOption = some [.letter 'a', .many] := by decide +kernel
example : (searchPattern "a$").toOption = none := by decide +kernel

end Spreadsheet.Value
