import Spreadsheet.Calendar.Reader
import Spreadsheet.Decimal.Power
import Spreadsheet.Formula.Token

/-!
# Scanning

A formula is cut into tokens from left to right, with white space between them
dropped.  A mark takes two characters when they form one.  Then come the
literals: a number, a text in double quotes, a date between number signs.
Everything else is an identifier, which is a name or a reference and may hold
sheet names in single quotes.

`scan` gives the tokens up to the end, or up to the first character that starts
none, and then says why.  Each step takes at least one character, so the number
of characters bounds the number of steps.

A number without an exponent is computed digit by digit, as a whole number that
is divided by a power of ten at the end, and the rounding on the way shows.
-/

namespace Spreadsheet.Formula

open Spreadsheet.Text (isDigit digitValue isBlank isAlphabetic isAlphanumeric)

/-! ## Characters -/

/-- Whether a character belongs to one of the East Asian scripts that identifiers may use. -/
def isEastAsian (c : Char) : Bool :=
  let n := c.toNat
  (0x3040 ≤ n && n ≤ 0x30ff) || (0x3400 ≤ n && n ≤ 0x4dbf) || (0x4e00 ≤ n && n ≤ 0x9fff)
    || (0xac00 ≤ n && n ≤ 0xd7af) || (0xf900 ≤ n && n ≤ 0xfaff)

/-- Whether a character can start an identifier. -/
def startsIdentifier (c : Char) : Bool :=
  c = '_' || c = '$' || c = ':' || c = '!' || isAlphabetic c || isEastAsian c

/-- Whether a character can go on an identifier. -/
def continuesIdentifier (c : Char) : Bool := startsIdentifier c || isAlphanumeric c

/-! ## Literals -/

/-- A text up to the closing quote, and what follows it.  A quote written twice stands for one. -/
def takeQuoted (quote : Char) : List Char → Option (List Char × List Char)
  | [] => none
  | [c] => if c = quote then some ([], []) else none
  | c :: d :: cs =>
    if c = quote then
      if d = quote then (takeQuoted quote cs).map fun (text, rest) => (quote :: text, rest)
      else some ([], d :: cs)
    else (takeQuoted quote (d :: cs)).map fun (text, rest) => (c :: text, rest)

/-- The exponent at the start of a text, and what follows it. -/
def takeExponent? : List Char → Option (List Char × List Char)
  | c :: cs =>
    if c = 'e' || c = 'E' then
      let sign := cs.take (if cs.head? = some '+' || cs.head? = some '-' then 1 else 0)
      let rest := cs.drop sign.length
      let digits := rest.takeWhile isDigit
      if digits.isEmpty then none else some (c :: sign ++ digits, rest.drop digits.length)
    else none
  | [] => none

/-- The number that digits stand for, as it is rounded after every digit. -/
def roundedNumber (digits : List Char) : Float :=
  digits.foldl (fun x c => x * 10.0 + Float.ofNat (digitValue c)) 0.0

/-- The places after a point at the start of a text, if there is a point, and what follows. -/
def takePlaces : List Char → Option (List Char) × List Char
  | '.' :: cs => (some (cs.takeWhile isDigit), cs.dropWhile isDigit)
  | cs => (none, cs)

/-- A number, and what follows it. -/
def takeNumber (cs : List Char) : Float × List Char :=
  let whole := cs.takeWhile isDigit
  let (places?, rest) := takePlaces (cs.dropWhile isDigit)
  let places := places?.getD []
  let (x, rest) :=
    match takeExponent? rest with
    | some (exponent, rest) =>
      let point := if places?.isSome then ['.'] else []
      ((Decimal.read? (whole ++ point ++ places ++ exponent)).getD Value.nan, rest)
    | none => (roundedNumber (whole ++ places) / Decimal.power 10.0 places.length, rest)
  match rest with
  | '%' :: rest => (x / 100.0, rest)
  | _ => (x, rest)

/-! ## Tokens -/

/-- A sheet name behind its opening quote, with its quotes and the `!`, and what follows it. -/
def takeSheetName (cs : List Char) : Except SyntaxFault (List Char × List Char) :=
  match takeQuoted apostrophe cs with
  | none => .error .unterminatedName
  | some (name, '!' :: rest) => .ok (quoted name ++ ['!'], rest)
  | some (name, _) => .error (.danglingName (String.ofList name))

/-- An identifier, and what follows it.  The first argument bounds the number of its parts. -/
def takeIdentifier : Nat → List Char → Except SyntaxFault (List Char × List Char)
  | 0, cs => .ok ([], cs)
  | steps + 1, cs =>
    let part := cs.takeWhile continuesIdentifier
    match cs.dropWhile continuesIdentifier with
    | [] => .ok (part, [])
    | c :: rest =>
      if c = apostrophe then do
        let (name, rest) ← takeSheetName rest
        let (more, rest) ← takeIdentifier steps rest
        .ok (part ++ name ++ more, rest)
      else .ok (part, c :: rest)

/-- A mark at the start of a text, and what follows it. -/
def takeMark? : List Char → Option (Mark × List Char)
  | [] => none
  | c :: cs =>
    match cs with
    | [] => (Mark.ofChar? c).map (·, [])
    | d :: rest =>
      match Mark.ofPair? c d with
      | some m => some (m, rest)
      | none => (Mark.ofChar? c).map (·, cs)

/-- Whether a number starts a text. -/
def startsNumber : List Char → Bool
  | '.' :: c :: _ => isDigit c
  | c :: _ => isDigit c
  | [] => false

/-- The token at the start of a text that does not start with white space, and what follows it. -/
def takeToken (cs : List Char) : Except SyntaxFault (Token × List Char) :=
  match takeMark? cs with
  | some (m, rest) => .ok (.mark m, rest)
  | none =>
    if startsNumber cs then
      let (x, rest) := takeNumber cs
      .ok (.literal (.number x), rest)
    else
      match cs with
      | '"' :: cs =>
        match takeQuoted '"' cs with
        | none => .error .unterminatedText
        | some (_, '!' :: _) => .error .crossSheet
        | some (text, rest) => .ok (.literal (.text (String.ofList text)), rest)
      | '#' :: cs =>
        let text := String.ofList (cs.takeWhile (· ≠ '#'))
        match cs.dropWhile (· ≠ '#') with
        | [] => .error .unterminatedDate
        | _ :: rest =>
          match Calendar.Moment.read? text with
          | some m => .ok (.literal (.date m), rest)
          | none => .error (.badDate text)
      | c :: _ =>
        if c = apostrophe || startsIdentifier c then
          (takeIdentifier cs.length cs).map fun (text, rest) =>
            (.identifier (String.ofList text), rest)
        else .error .identifierExpected
      | [] => .error .identifierExpected

/-- The tokens of a text, and why they end early if they do.  The first argument bounds their
number. -/
def scanFrom : Nat → List Char → List Token × Option SyntaxFault
  | 0, _ => ([], none)
  | steps + 1, cs =>
    match cs.dropWhile isBlank with
    | [] => ([], none)
    | c :: rest =>
      match takeToken (c :: rest) with
      | .error fault => ([], some fault)
      | .ok (token, rest) =>
        let (tokens, fault) := scanFrom steps rest
        (token :: tokens, fault)

/-- The tokens of a formula without its `=`, and why they end early if they do. -/
def scan (s : String) : List Token × Option SyntaxFault := scanFrom s.toList.length s.toList

/-! ## Tests -/

example : takeQuoted '"' "a\"\"b\"c".toList = some ("a\"b".toList, ['c']) := by decide +kernel
example : (takeNumber "1.50%x".toList) = (0.015, ['x']) := by decide +kernel
example : scan "1<>A1" = ([.literal (.number 1.0), .mark (.operator (.compare .notEqual)),
    .identifier "A1"], none) := by decide +kernel
example : scan "'a b'!A1" = ([.identifier "'a b'!A1"], none) := by decide +kernel
example : scan "1 ;" = ([.literal (.number 1.0)], some .identifierExpected) := by decide +kernel

end Spreadsheet.Formula
