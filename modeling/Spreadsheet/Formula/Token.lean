import Spreadsheet.Formula.Operator

/-!
# Tokens

The smallest parts of a formula: literals, identifiers and symbols.  A symbol is
an operator or one of the three marks that group operands.  `+` and `-` are also
signs, which depends on where they stand.
-/

namespace Spreadsheet.Formula

/-- A symbol. -/
inductive Mark where
  /-- An operator. -/
  | operator (op : Operator)
  /-- The mark `(`. -/
  | opening
  /-- The mark `)`. -/
  | closing
  /-- The mark `,`. -/
  | comma
deriving DecidableEq, Repr

/-- The marks of one character. -/
def Mark.ofChar? : Char → Option Mark
  | '&' => some (.operator .join)
  | '=' => some (.operator (.compare .equal))
  | '>' => some (.operator (.compare .greater))
  | '<' => some (.operator (.compare .less))
  | '+' => some (.operator .add)
  | '-' => some (.operator .subtract)
  | '*' => some (.operator .multiply)
  | '/' => some (.operator .divide)
  | '\\' => some (.operator .wholeDivide)
  | '%' => some (.operator .modulo)
  | '^' => some (.operator .power)
  | '(' => some .opening
  | ')' => some .closing
  | ',' => some .comma
  | _ => none

/-- The marks of two characters. -/
def Mark.ofPair? : Char → Char → Option Mark
  | '<', '>' => some (.operator (.compare .notEqual))
  | '>', '=' => some (.operator (.compare .greaterEqual))
  | '<', '=' => some (.operator (.compare .lessEqual))
  | _, _ => none

/-- The text of an operator. -/
def Operator.text : Operator → String
  | .add => "+"
  | .subtract => "-"
  | .multiply => "*"
  | .divide => "/"
  | .wholeDivide => "\\"
  | .modulo => "%"
  | .power => "^"
  | .compare .equal => "="
  | .compare .notEqual => "<>"
  | .compare .less => "<"
  | .compare .lessEqual => "<="
  | .compare .greater => ">"
  | .compare .greaterEqual => ">="
  | .join => "&"

/-- The text of a mark. -/
def Mark.text : Mark → String
  | .operator op => op.text
  | .opening => "("
  | .closing => ")"
  | .comma => ","

/-- A part of a formula. -/
inductive Token where
  /-- A value. -/
  | literal (v : Value)
  /-- A name, or a reference. -/
  | identifier (text : String)
  /-- A symbol. -/
  | mark (m : Mark)
deriving DecidableEq

/-- A token as an error shows it. -/
def Token.describe : Token → String
  | .literal v => v.asText
  | .identifier text => text
  | .mark m => m.text

end Spreadsheet.Formula
