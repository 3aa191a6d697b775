/-!
# What can go wrong with a grid

Addresses and ranges are read from text, and a workbook keeps its sheets named
apart.  Each way this fails is a constructor, and `Error.message` holds all the
wording.
-/

namespace Spreadsheet.Grid

/-- Why a text is no cell address. -/
inductive AddressFault where
  /-- There is no text. -/
  | empty
  /-- No letters stand where the column should be. -/
  | noColumn (text : String)
  /-- What follows the column is no row number. -/
  | badRow (text : String)
  /-- The row number is zero. -/
  | zeroRow (text : String)
  /-- There are no column letters. -/
  | noLetters
  /-- A column letter is none. -/
  | badLetter (c : Char)
  /-- The column has too many letters to be counted. -/
  | columnTooLarge (letters : String)
deriving DecidableEq, Repr

/-- The wording of a fault. -/
def AddressFault.message : AddressFault → String
  | .empty => "empty address"
  | .noColumn text => "no column letters in '" ++ text ++ "'"
  | .badRow text => "invalid row number in '" ++ text ++ "'"
  | .zeroRow text => "row number must be >= 1 in '" ++ text ++ "'"
  | .noLetters => "empty column letters"
  | .badLetter c => "invalid column letter '" ++ String.singleton c ++ "'"
  | .columnTooLarge letters => "column too large: " ++ letters

/-- Why a text cannot name a sheet. -/
inductive NameFault where
  /-- The name is empty. -/
  | empty
  /-- The name has more characters than allowed. -/
  | tooLong (limit : Nat)
  /-- The name holds a character that no name may hold. -/
  | forbidden (c : Char)
deriving DecidableEq, Repr

/-- The wording of a fault. -/
def NameFault.message : NameFault → String
  | .empty => "Sheet name cannot be empty"
  | .tooLong limit => "Sheet name cannot exceed " ++ toString limit ++ " characters"
  | .forbidden c => "Sheet name cannot contain '" ++ String.singleton c ++ "'"

/-- An error of a grid operation. -/
inductive Error where
  /-- A text is no cell address. -/
  | address (fault : AddressFault)
  /-- A text is no range. -/
  | range (text : String)
  /-- There is no sheet with this index among so many. -/
  | sheetOutOfBounds (index count : Nat)
  /-- A text cannot name a sheet. -/
  | sheetName (fault : NameFault)
  /-- Another sheet has this name. -/
  | duplicateName (name : String)
deriving DecidableEq, Repr

/-- The wording of an error. -/
def Error.message : Error → String
  | .address fault => "Invalid cell address: " ++ fault.message
  | .range text => "Invalid cell range: " ++ text
  | .sheetOutOfBounds index count =>
    "Sheet index " ++ toString index ++ " out of bounds (count: " ++ toString count ++ ")"
  | .sheetName fault => "Invalid sheet name: " ++ fault.message
  | .duplicateName name => "Sheet name already exists: " ++ name

end Spreadsheet.Grid
