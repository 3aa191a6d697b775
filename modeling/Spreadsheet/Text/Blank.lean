import Spreadsheet.Text.CodeSet

/-!
# White space

The characters with the Unicode property `White_Space`, and the two ends of a
text freed of them.  Text is trimmed before it is read as a number, a date, a
boolean, an address or a formula.
-/

namespace Spreadsheet.Text

/-- The code points with the property `White_Space`. -/
def blanks : CodeSet := ⟨[9, 14, 32, 33, 133, 134, 160, 161, 5760, 5761, 8192, 8203, 8232, 8234,
  8239, 8240, 8287, 8288, 12288, 12289]⟩

/-- Whether a character is white space. -/
def isBlank (c : Char) : Bool := blanks.contains c

/-- A text without the white space in front of it. -/
def trimStart (cs : List Char) : List Char := cs.dropWhile isBlank

/-- A text without the white space behind it. -/
def trimEnd (cs : List Char) : List Char := (cs.reverse.dropWhile isBlank).reverse

/-- A text without white space at either end. -/
def trim (s : String) : String := String.ofList (trimEnd (trimStart s.toList))

/-! ## Tests -/

example : isBlank ' ' = true := by decide
example : isBlank '\n' = true := by decide
example : isBlank '\u00a0' = true := by decide
example : isBlank '\u200b' = false := by decide
example : trimEnd (trimStart [' ', 'a', ' ', 'b', '\t']) = ['a', ' ', 'b'] := by decide

end Spreadsheet.Text
