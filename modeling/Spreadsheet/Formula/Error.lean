import Spreadsheet.Decimal.Shortest
import Spreadsheet.Grid.Error

/-!
# What can go wrong with a formula

Reading a formula fails with a `SyntaxFault` or because of a name or a number
of arguments.  Computing it fails with one of the other errors.  Most of them
say that an argument is of the wrong kind or outside the domain of a function,
and these are gathered in `ArgumentFault`.

No error leaves the evaluation of a cell: there it becomes a text that begins
with `Error: ` and goes on with `Error.message`.
-/

namespace Spreadsheet.Formula

/-- Why a text is no formula. -/
inductive SyntaxFault where
  /-- A character starts no token. -/
  | identifierExpected
  /-- A text in double quotes does not end. -/
  | unterminatedText
  /-- A text in double quotes stands where a sheet name should be. -/
  | crossSheet
  /-- A date between number signs does not end. -/
  | unterminatedDate
  /-- A text between number signs is no date. -/
  | badDate (text : String)
  /-- A sheet name in single quotes does not end. -/
  | unterminatedName
  /-- No `!` follows a sheet name in single quotes. -/
  | danglingName (name : String)
  /-- A token stands where none of its kind can. -/
  | unexpected (token : String)
  /-- A parenthesis is not closed. -/
  | unbalanced
  /-- The formula ends where an operand should follow. -/
  | unexpectedEnd
deriving DecidableEq, Repr

/-- The wording of a fault. -/
def SyntaxFault.message : SyntaxFault → String
  | .identifierExpected => "identifier expected"
  | .unterminatedText => "unterminated string"
  | .crossSheet => "illegal cross sheet reference"
  | .unterminatedDate => "unterminated date"
  | .badDate text => "invalid date literal #" ++ text ++ "#"
  | .unterminatedName => "unterminated sheet name"
  | .danglingName name => "invalid sheet reference '" ++ name ++ "'"
  | .unexpected token => "syntax error near '" ++ token ++ "'"
  | .unbalanced => "unbalanced parenthesis"
  | .unexpectedEnd => "unexpected end of formula"

/-- Why an argument cannot be used. -/
inductive ArgumentFault where
  /-- A value is no number. -/
  | noNumber (text : String)
  /-- A value is no truth value. -/
  | noBoolean (text : String)
  /-- A value is no moment. -/
  | noDate (text : String)
  /-- A function that needs a range was given a value. -/
  | noRange (function text : String)
  /-- The arrays of a sum of products differ in size. -/
  | unequalArrays
  /-- A code selects no aggregate. -/
  | subtotalCode (code : Int)
  /-- Ranges that belong together differ in shape. -/
  | unequalRanges (function first other : String)
  /-- Ranges and criteria do not come in pairs. -/
  | unpaired (function : String)
  /-- The result of a function is no finite number. -/
  | undefined (function : String)
  /-- The bounds of a random number are in the wrong order. -/
  | emptyBounds (bottom top : Int)
  /-- A count is negative. -/
  | negativeCount (function : String)
  /-- A position is less than one. -/
  | badPosition (function : String)
  /-- A repeated text would be too long. -/
  | tooLong (limit : Nat)
  /-- A character code is less than one. -/
  | noCharacterCode
  /-- A code is no character's. -/
  | characterCode (code : Float)
  /-- A text has no first character. -/
  | noCharacter
  /-- A text is neither a number nor a date. -/
  | notNumeric (text : String)
  /-- A way to count weekdays is not known. -/
  | weekdayType (code : Int)
  /-- A time of day is out of reach. -/
  | badTime (hour minute second : Int)
  /-- A date is out of reach. -/
  | badDate (year month day : Int)
  /-- A period ends before it starts. -/
  | reversedPeriod
  /-- A unit of periods is not known. -/
  | periodUnit (unit : String)
  /-- A function without a reference is not computed for a cell. -/
  | noCaller (function : String)
  /-- A way to match is not known. -/
  | matchType (code : Int)
  /-- A pattern is too large. -/
  | patternTooLarge
  /-- A search pattern ends in an escape. -/
  | badPattern (report : String)
  /-- A function from outside refuses its arguments. -/
  | refused (report : String)
deriving DecidableEq

/-- The wording of a fault. -/
def ArgumentFault.message : ArgumentFault → String
  | .noNumber text => "cannot convert '" ++ text ++ "' to a number"
  | .noBoolean text => "cannot convert '" ++ text ++ "' to a boolean"
  | .noDate text => "cannot convert '" ++ text ++ "' to a date"
  | .noRange function text => function ++ " expects a range, got '" ++ text ++ "'"
  | .unequalArrays => "SUMPRODUCT arrays must have the same size"
  | .subtotalCode code => "invalid SUBTOTAL function number " ++ toString code
  | .unequalRanges function first other =>
    function ++ " ranges must have the same size (" ++ first ++ " vs " ++ other ++ ")"
  | .unpaired function => function ++ " expects range/criteria pairs"
  | .undefined function => function ++ " is undefined for the given arguments"
  | .emptyBounds bottom top =>
    "RANDBETWEEN bottom " ++ toString bottom ++ " is greater than top " ++ toString top
  | .negativeCount function => function ++ " count must not be negative"
  | .badPosition function => function ++ " position must be at least 1"
  | .tooLong limit => "REPT result longer than " ++ toString limit ++ " characters"
  | .noCharacterCode => "CHAR code must be at least 1"
  | .characterCode code => "invalid character code " ++ Decimal.text code
  | .noCharacter => "CODE needs a non-empty text"
  | .notNumeric text => "'" ++ text ++ "' is not a number"
  | .weekdayType code => "WEEKDAY return type " ++ toString code ++ " is not supported"
  | .badTime hour minute second =>
    "invalid time " ++ toString hour ++ ":" ++ toString minute ++ ":" ++ toString second
  | .badDate year month day =>
    "invalid date " ++ toString year ++ "-" ++ toString month ++ "-" ++ toString day
  | .reversedPeriod => "DATEDIF start date is after the end date"
  | .periodUnit unit => "DATEDIF unit '" ++ unit ++ "' is not supported"
  | .noCaller function => function ++ " needs a reference outside of a cell"
  | .matchType code => "MATCH type " ++ toString code ++ " is not supported"
  | .patternTooLarge => "Compiled regex exceeds size limit of 10485760 bytes."
  | .badPattern report => report
  | .refused report => report

/-- Which index is outside its bounds. -/
inductive IndexFault where
  /-- A range reaches beyond its sheet. -/
  | outsideSheet (reference : String)
  /-- A choice is not among those given. -/
  | choice (index : Float) (choices : Nat)
  /-- A row or a column is not in the range. -/
  | outsideRange (name : String) (index : Float) (span : Nat)
deriving DecidableEq

/-- The wording of a fault. -/
def IndexFault.message : IndexFault → String
  | .outsideSheet reference => reference ++ " is outside the sheet"
  | .choice index choices =>
    "CHOOSE index " ++ Decimal.text index ++ " with " ++ toString choices ++ " choices"
  | .outsideRange name index span =>
    name ++ " index " ++ Decimal.text index ++ " outside 1..=" ++ toString span

/-- An error of reading or computing a formula. -/
inductive Error where
  /-- A text is no formula. -/
  | syntaxError (fault : SyntaxFault)
  /-- A function has fewer arguments than it takes. -/
  | tooFewArguments (function : String)
  /-- A function has more arguments than it takes. -/
  | tooManyArguments (function : String)
  /-- A name is neither a function's nor a reference. -/
  | unknownFunction (name : String)
  /-- A range is read while it is being read. -/
  | circularReference
  /-- A reference is malformed. -/
  | invalidReference (text : String)
  /-- There is no sheet with a name. -/
  | missingSheet (name : String)
  /-- An index is outside its bounds. -/
  | indexOutOfRange (fault : IndexFault)
  /-- A criterion cannot be used. -/
  | invalidCriterion (text : String)
  /-- A value was looked for and not found. -/
  | notFound (text : String)
  /-- A search for a number gave up. -/
  | noConvergence (function : String)
  /-- An argument cannot be used. -/
  | argument (fault : ArgumentFault)
  /-- A quotient has no divisor. -/
  | divisionByZero
  /-- An operation gives no number. -/
  | badExpression
  /-- A function asked for an argument, or for an entry of a list, that is not there. -/
  | missingArgument
deriving DecidableEq

/-- The wording of an error. -/
def Error.message : Error → String
  | .syntaxError fault => fault.message
  | .tooFewArguments function => "too few parameters for " ++ function
  | .tooManyArguments function => "too many parameters for " ++ function
  | .unknownFunction name => "the function \"" ++ name ++ "\" is not supported"
  | .circularReference => "circular reference"
  | .invalidReference text => "invalid cell reference: " ++ text
  | .missingSheet name => "invalid sheet reference: " ++ name
  | .indexOutOfRange fault => "index out of range: " ++ fault.message
  | .invalidCriterion text => "invalid criteria: " ++ text
  | .notFound text => "value not found: " ++ text
  | .noConvergence function => function ++ " failed to converge"
  | .argument fault => "invalid argument: " ++ fault.message
  | .divisionByZero => "division by zero"
  | .badExpression => "bad expression"
  | .missingArgument => "missing argument"

/-- The error a formula shows for an error of its grid. -/
def Error.ofGrid (e : Grid.Error) : Error := .invalidReference e.message

end Spreadsheet.Formula
