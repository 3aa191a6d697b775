import Spreadsheet.Decimal.Shortest
import Spreadsheet.Text.Glob
import Spreadsheet.Text.Occurrence

/-!
# Search patterns

A text to search for is a wildcard pattern, and there is one kind that is
refused: it must not end in `$`.  The refusal is a report on the pattern in the
notation of regular expressions, in which `?` is a point and `*` a point with a
star, and a character with a meaning of its own has a backslash in front.  A
final `$` is the end mark of that notation and does not belong to the text, so
the backslash is left alone at the end, and the report points at it.

A pattern of several lines is shown with line numbers between two rules.
-/

namespace Spreadsheet.Text

/-- The characters with a meaning of their own in the notation of regular expressions. -/
def metaCharacters : List Char :=
  ['\\', '.', '+', '(', ')', '|', '[', ']', '\x7b', '\x7d', '^', '$', '#', '&', '-', '~']

/-- A pattern in the notation of regular expressions. -/
def expression (cs : List Char) : List Char :=
  cs.flatMap fun c =>
    if c = '?' then ['.']
    else if c = '*' then ['.', '*']
    else if metaCharacters.contains c then ['\\', c]
    else [c]

/-- A line with the mark that points at its last character. -/
def pointedLine (indent : List Char) (label line : List Char) : List Char :=
  label ++ line ++ '\n' :: indent ++ List.replicate (line.length - 1) ' ' ++ ['^', '\n']

/-- The report on a pattern that ends in a backslash. -/
def openEscapeReport (pattern : List Char) : String :=
  let final := "error: incomplete escape sequence, reached end of pattern prematurely".toList
  let title := "regex parse error:\n".toList
  let all := lines pattern
  let last := all.getLast?.getD []
  let body :=
    if all.length ≤ 1 then pointedLine (List.replicate 4 ' ') (List.replicate 4 ' ') last
    else
      let width := (Decimal.digitsOf all.length).length
      let label (n : Nat) : List Char :=
        let digits := Decimal.digitsOf n
        List.replicate (width - digits.length) ' ' ++ digits ++ [':', ' ']
      let rule := List.replicate 79 '~' ++ ['\n']
      let before := all.dropLast.zipIdx.flatMap fun (line, i) => label (i + 1) ++ line ++ ['\n']
      rule ++ before ++ pointedLine (List.replicate (width + 2) ' ') (label all.length) last ++ rule
  String.ofList (title ++ body ++ final)

/-- The report on a search text, if it is refused. -/
def searchReport? (needle : String) : Option String :=
  let cs := needle.toList
  if cs.getLast? = some '$' then some (openEscapeReport (expression cs.dropLast ++ ['\\']))
  else none

/-! ## Tests -/

example : expression ['a', '?', '.'] = ['a', '.', '\\', '.'] := by decide +kernel
example : searchReport? "a" = none := by decide +kernel
example : searchReport? "a$" = some ("regex parse error:\n    a\\\n     ^\nerror: incomplete "
    ++ "escape sequence, reached end of pattern prematurely") := by decide +kernel

end Spreadsheet.Text
