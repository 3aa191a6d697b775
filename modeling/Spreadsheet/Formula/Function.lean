import Spreadsheet.Formula.Error
import Spreadsheet.Text.Casing
import Spreadsheet.Value.Basic

/-!
# Functions

A formula calls functions by name.  A function has a least number of arguments
and, most of them, a greatest one.  It is built in, or it was registered from
outside.  One from outside is given ranges as they are and every other argument
as its value.

Names are looked up in upper case, so their case does not matter, and a function
that is registered takes the place of any other with its name.
-/

namespace Spreadsheet.Formula

open Spreadsheet.Grid (Range)

/-- The functions that are built in. -/
inductive Builtin where
  /-- The sum of numbers, `SUM`. -/
  | sum
  /-- The mean of numbers, `AVERAGE`. -/
  | average
  /-- The greatest of numbers, `MAX`. -/
  | max
  /-- The least of numbers, `MIN`. -/
  | min
  /-- The variance of a sample, `VAR`. -/
  | var
  /-- The variance of a population, `VARP`. -/
  | varP
  /-- The standard deviation of a sample, `STDEV`. -/
  | stdev
  /-- The standard deviation of a population, `STDEVP`. -/
  | stdevP
  /-- How many numbers there are, `COUNT`. -/
  | count
  /-- How many values there are, `COUNTA`. -/
  | countAll
  /-- How many blanks there are, `COUNTBLANK`. -/
  | countBlank
  /-- The product of numbers, `PRODUCT`. -/
  | product
  /-- The sum of products, entry by entry, `SUMPRODUCT`. -/
  | sumProduct
  /-- The place of a number among others, `RANK`. -/
  | rank
  /-- An aggregate chosen by a code, `SUBTOTAL`. -/
  | subtotal
  /-- How many cells satisfy a criterion, `COUNTIF`. -/
  | countIf
  /-- How many cells satisfy several criteria, `COUNTIFS`. -/
  | countIfs
  /-- The sum over cells that satisfy a criterion, `SUMIF`. -/
  | sumIf
  /-- The sum over cells that satisfy several criteria, `SUMIFS`. -/
  | sumIfs
  /-- The absolute value, `ABS`. -/
  | abs
  /-- The arc cosine, `ACOS`. -/
  | acos
  /-- The arc sine, `ASIN`. -/
  | asin
  /-- The arc tangent, `ATAN`. -/
  | atan
  /-- The angle of a point, `ATAN2`. -/
  | atan2
  /-- The cosine, `COS`. -/
  | cos
  /-- The sine, `SIN`. -/
  | sin
  /-- The tangent, `TAN`. -/
  | tan
  /-- The exponential, `EXP`. -/
  | exp
  /-- The natural logarithm, `LN`. -/
  | ln
  /-- The logarithm to a base, `LOG`. -/
  | log
  /-- The decimal logarithm, `LOG10`. -/
  | log10
  /-- The square root, `SQRT`. -/
  | sqrt
  /-- A multiple of a number, rounded down, `FLOOR`. -/
  | floor
  /-- A multiple of a number, rounded up, `CEILING`. -/
  | ceiling
  /-- A number rounded down, `INT`. -/
  | int
  /-- The remainder with the sign of the divisor, `MOD`. -/
  | mod
  /-- The number pi, `PI`. -/
  | pi
  /-- A power, `POWER`. -/
  | power
  /-- The sign, `SIGN`. -/
  | sign
  /-- A random number, `RAND`. -/
  | rand
  /-- A random whole number, `RANDBETWEEN`. -/
  | randBetween
  /-- A number rounded to the nearest, `ROUND`. -/
  | round
  /-- A number rounded toward zero, `ROUNDDOWN`. -/
  | roundDown
  /-- A number rounded away from zero, `ROUNDUP`. -/
  | roundUp
  /-- A number without further places, `TRUNC`. -/
  | trunc
  /-- Whether all are true, `AND`. -/
  | conjunction
  /-- Whether one is true, `OR`. -/
  | disjunction
  /-- One of two values, `IF`. -/
  | branch
  /-- The opposite truth value, `NOT`. -/
  | negation
  /-- The true value, `TRUE`. -/
  | isTrue
  /-- The false value, `FALSE`. -/
  | isFalse
  /-- The start of a text, `LEFT`. -/
  | left
  /-- The end of a text, `RIGHT`. -/
  | right
  /-- A part of a text, `MID`. -/
  | mid
  /-- The number of characters, `LEN`. -/
  | len
  /-- Where a text occurs, `FIND`. -/
  | find
  /-- Where a pattern occurs, `SEARCH`. -/
  | search
  /-- A text with a part replaced, `REPLACE`. -/
  | replace
  /-- A text with another text replaced, `SUBSTITUTE`. -/
  | substitute
  /-- A text repeated, `REPT`. -/
  | rept
  /-- A text in upper case, `UPPER`. -/
  | upper
  /-- A text in lower case, `LOWER`. -/
  | lower
  /-- A text with capital initials, `PROPER`. -/
  | proper
  /-- A text without needless spaces, `TRIM`. -/
  | trim
  /-- Texts one after the other, `CONCATENATE`. -/
  | concatenate
  /-- The character with a code, `CHAR`. -/
  | char
  /-- The code of a character, `CODE`. -/
  | code
  /-- A value in a display format, `TEXT`. -/
  | formatText
  /-- A text as a number, `VALUE`. -/
  | valueOfText
  /-- A value if it is a text, `T`. -/
  | onlyText
  /-- Whether two texts are the same, `EXACT`. -/
  | exact
  /-- The present moment, `NOW`. -/
  | now
  /-- The present date, `TODAY`. -/
  | today
  /-- The year of a moment, `YEAR`. -/
  | year
  /-- The month of a moment, `MONTH`. -/
  | month
  /-- The day of a moment, `DAY`. -/
  | day
  /-- The hour of a moment, `HOUR`. -/
  | hour
  /-- The minute of a moment, `MINUTE`. -/
  | minute
  /-- The second of a moment, `SECOND`. -/
  | second
  /-- The day of the week, `WEEKDAY`. -/
  | weekday
  /-- A time of day, `TIME`. -/
  | timeOf
  /-- A date, `DATE`. -/
  | dateOf
  /-- The length of a period, `DATEDIF`. -/
  | dateDif
  /-- The row of a range, `ROW`. -/
  | row
  /-- The column of a range, `COLUMN`. -/
  | column
  /-- How many rows there are, `ROWS`. -/
  | rows
  /-- How many columns there are, `COLUMNS`. -/
  | columns
  /-- One of several values, `CHOOSE`. -/
  | choose
  /-- A part of a range, `INDEX`. -/
  | index
  /-- A value looked up by the first row, `HLOOKUP`. -/
  | hLookup
  /-- A value looked up by the first column, `VLOOKUP`. -/
  | vLookup
  /-- Where a value stands, `MATCH`. -/
  | position
  /-- The interest rate of an annuity, `RATE`. -/
  | rate
deriving DecidableEq, Repr

/-- The name of a function and the number of arguments it takes. -/
structure Signature where
  /-- The name, in upper case. -/
  name : String
  /-- The least number of arguments. -/
  least : Nat
  /-- The greatest number of arguments, if there is one. -/
  most : Option Nat
deriving DecidableEq, Repr

/-- The signature of a function that is built in. -/
def Builtin.signature : Builtin → Signature
  | .sum => ⟨"SUM", 1, none⟩
  | .average => ⟨"AVERAGE", 1, none⟩
  | .max => ⟨"MAX", 1, none⟩
  | .min => ⟨"MIN", 1, none⟩
  | .var => ⟨"VAR", 1, none⟩
  | .varP => ⟨"VARP", 1, none⟩
  | .stdev => ⟨"STDEV", 1, none⟩
  | .stdevP => ⟨"STDEVP", 1, none⟩
  | .count => ⟨"COUNT", 1, none⟩
  | .countAll => ⟨"COUNTA", 1, none⟩
  | .countBlank => ⟨"COUNTBLANK", 1, none⟩
  | .product => ⟨"PRODUCT", 1, none⟩
  | .sumProduct => ⟨"SUMPRODUCT", 1, none⟩
  | .rank => ⟨"RANK", 2, some 3⟩
  | .subtotal => ⟨"SUBTOTAL", 2, none⟩
  | .countIf => ⟨"COUNTIF", 2, some 2⟩
  | .countIfs => ⟨"COUNTIFS", 2, none⟩
  | .sumIf => ⟨"SUMIF", 2, some 3⟩
  | .sumIfs => ⟨"SUMIFS", 3, none⟩
  | .abs => ⟨"ABS", 1, some 1⟩
  | .acos => ⟨"ACOS", 1, some 1⟩
  | .asin => ⟨"ASIN", 1, some 1⟩
  | .atan => ⟨"ATAN", 1, some 1⟩
  | .atan2 => ⟨"ATAN2", 2, some 2⟩
  | .cos => ⟨"COS", 1, some 1⟩
  | .sin => ⟨"SIN", 1, some 1⟩
  | .tan => ⟨"TAN", 1, some 1⟩
  | .exp => ⟨"EXP", 1, some 1⟩
  | .ln => ⟨"LN", 1, some 1⟩
  | .log => ⟨"LOG", 1, some 2⟩
  | .log10 => ⟨"LOG10", 1, some 1⟩
  | .sqrt => ⟨"SQRT", 1, some 1⟩
  | .floor => ⟨"FLOOR", 1, some 2⟩
  | .ceiling => ⟨"CEILING", 1, some 2⟩
  | .int => ⟨"INT", 1, some 1⟩
  | .mod => ⟨"MOD", 2, some 2⟩
  | .pi => ⟨"PI", 0, some 0⟩
  | .power => ⟨"POWER", 2, some 2⟩
  | .sign => ⟨"SIGN", 1, some 1⟩
  | .rand => ⟨"RAND", 0, some 0⟩
  | .randBetween => ⟨"RANDBETWEEN", 2, some 2⟩
  | .round => ⟨"ROUND", 1, some 2⟩
  | .roundDown => ⟨"ROUNDDOWN", 1, some 2⟩
  | .roundUp => ⟨"ROUNDUP", 1, some 2⟩
  | .trunc => ⟨"TRUNC", 1, some 2⟩
  | .conjunction => ⟨"AND", 1, none⟩
  | .disjunction => ⟨"OR", 1, none⟩
  | .branch => ⟨"IF", 1, some 3⟩
  | .negation => ⟨"NOT", 1, some 1⟩
  | .isTrue => ⟨"TRUE", 0, some 0⟩
  | .isFalse => ⟨"FALSE", 0, some 0⟩
  | .left => ⟨"LEFT", 1, some 2⟩
  | .right => ⟨"RIGHT", 1, some 2⟩
  | .mid => ⟨"MID", 3, some 3⟩
  | .len => ⟨"LEN", 1, some 1⟩
  | .find => ⟨"FIND", 2, some 3⟩
  | .search => ⟨"SEARCH", 2, some 3⟩
  | .replace => ⟨"REPLACE", 4, some 4⟩
  | .substitute => ⟨"SUBSTITUTE", 3, some 4⟩
  | .rept => ⟨"REPT", 2, some 2⟩
  | .upper => ⟨"UPPER", 1, some 1⟩
  | .lower => ⟨"LOWER", 1, some 1⟩
  | .proper => ⟨"PROPER", 1, some 1⟩
  | .trim => ⟨"TRIM", 1, some 1⟩
  | .concatenate => ⟨"CONCATENATE", 1, none⟩
  | .char => ⟨"CHAR", 1, some 1⟩
  | .code => ⟨"CODE", 1, some 1⟩
  | .formatText => ⟨"TEXT", 2, some 2⟩
  | .valueOfText => ⟨"VALUE", 1, some 1⟩
  | .onlyText => ⟨"T", 1, some 1⟩
  | .exact => ⟨"EXACT", 2, some 2⟩
  | .now => ⟨"NOW", 0, some 0⟩
  | .today => ⟨"TODAY", 0, some 0⟩
  | .year => ⟨"YEAR", 1, some 1⟩
  | .month => ⟨"MONTH", 1, some 1⟩
  | .day => ⟨"DAY", 1, some 1⟩
  | .hour => ⟨"HOUR", 1, some 1⟩
  | .minute => ⟨"MINUTE", 1, some 1⟩
  | .second => ⟨"SECOND", 1, some 1⟩
  | .weekday => ⟨"WEEKDAY", 1, some 2⟩
  | .timeOf => ⟨"TIME", 3, some 3⟩
  | .dateOf => ⟨"DATE", 3, some 3⟩
  | .dateDif => ⟨"DATEDIF", 3, some 3⟩
  | .row => ⟨"ROW", 0, some 1⟩
  | .column => ⟨"COLUMN", 0, some 1⟩
  | .rows => ⟨"ROWS", 1, some 1⟩
  | .columns => ⟨"COLUMNS", 1, some 1⟩
  | .choose => ⟨"CHOOSE", 2, none⟩
  | .index => ⟨"INDEX", 2, some 3⟩
  | .hLookup => ⟨"HLOOKUP", 3, some 4⟩
  | .vLookup => ⟨"VLOOKUP", 3, some 4⟩
  | .position => ⟨"MATCH", 2, some 3⟩
  | .rate => ⟨"RATE", 3, some 6⟩

/-- All functions that are built in. -/
def builtins : List Builtin := [
  .sum, .average, .max, .min, .var, .varP, .stdev, .stdevP, .count, .countAll, .countBlank,
  .product, .sumProduct, .rank, .subtotal, .countIf, .countIfs, .sumIf, .sumIfs, .abs, .acos,
  .asin, .atan, .atan2, .cos, .sin, .tan, .exp, .ln, .log, .log10, .sqrt, .floor, .ceiling, .int,
  .mod, .pi, .power, .sign, .rand, .randBetween, .round, .roundDown, .roundUp, .trunc,
  .conjunction, .disjunction, .branch, .negation, .isTrue, .isFalse, .left, .right, .mid, .len,
  .find, .search, .replace, .substitute, .rept, .upper, .lower, .proper, .trim, .concatenate,
  .char, .code, .formatText, .valueOfText, .onlyText, .exact, .now, .today, .year, .month, .day,
  .hour, .minute, .second, .weekday, .timeOf, .dateOf, .dateDif, .row, .column, .rows, .columns,
  .choose, .index, .hLookup, .vLookup, .position, .rate]

/-- An argument of a function from outside. -/
inductive Parameter where
  /-- A value. -/
  | value (v : Value)
  /-- A range, without its sheet. -/
  | range (r : Range)
deriving DecidableEq

/-- What a function does. -/
inductive Body where
  /-- A function that is built in. -/
  | builtin (b : Builtin)
  /-- A function from outside. -/
  | foreign (f : List Parameter → Except Error Value)

/-- A function that formulas can call. -/
structure Function where
  /-- The name and the number of arguments. -/
  signature : Signature
  /-- What it does. -/
  body : Body

/-- The function that is built in under a name of its own. -/
def Builtin.function (b : Builtin) : Function := ⟨b.signature, .builtin b⟩

/-- Checks a number of arguments. -/
def Signature.checkCount (s : Signature) (count : Nat) : Except Error Unit :=
  if count < s.least then .error (.tooFewArguments s.name)
  else
    match s.most with
    | some most => if most < count then .error (.tooManyArguments s.name) else .ok ()
    | none => .ok ()

/-- The functions that formulas can call. -/
structure Registry where
  /-- The functions, no two of one name. -/
  functions : List Function

namespace Registry

/-- The functions that are built in. -/
def standard : Registry := ⟨builtins.map Builtin.function⟩

/-- The function with a name, in any case. -/
def find? (r : Registry) (name : String) : Option Function :=
  let name := Text.upper name
  r.functions.find? fun f => f.signature.name == name

/-- The registry with a function, in place of any other with its name. -/
def register (r : Registry) (f : Function) : Registry :=
  let name := Text.upper f.signature.name
  let f := { f with signature := { f.signature with name := name } }
  ⟨f :: r.functions.filter fun g => g.signature.name != name⟩

end Registry

/-! ## Tests -/

example : builtins.length = 93 := by decide
example : (Registry.standard.find? "vLookup").map (·.signature) = some ⟨"VLOOKUP", 3, some 4⟩ := by
  decide +kernel
example : (Registry.standard.find? "A1").isNone = true := by decide +kernel
example : (Builtin.mid.signature.checkCount 2).toOption = none := by decide +kernel

end Spreadsheet.Formula
