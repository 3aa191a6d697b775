import Spreadsheet.Functions.Annuities
import Spreadsheet.Functions.Arithmetic
import Spreadsheet.Functions.Characters
import Spreadsheet.Functions.Conditional
import Spreadsheet.Functions.Dates
import Spreadsheet.Functions.Logic
import Spreadsheet.Functions.Lookups
import Spreadsheet.Functions.Statistics
import Spreadsheet.Formula.Expr

/-!
# Computing expressions

Every expression stands for an argument: a reference stands for itself, and
anything else for a program.  The value of an expression is the result of its
argument.  A function is given the arguments of its call before any of them is
computed.
-/

namespace Spreadsheet.Evaluation

open Spreadsheet.Formula (Builtin Function Expr Parameter Error)

/-- What a function that is built in computes. -/
def applyBuiltin (c : Context) (args : List Argument) : Builtin → Program Value
  | .sum => Functions.aggregate .sum args
  | .average => Functions.aggregate .average args
  | .max => Functions.aggregate .max args
  | .min => Functions.aggregate .min args
  | .var => Functions.aggregate .var args
  | .varP => Functions.aggregate .varP args
  | .stdev => Functions.aggregate .stdev args
  | .stdevP => Functions.aggregate .stdevP args
  | .count => Functions.aggregate .count args
  | .countAll => Functions.aggregate .countAll args
  | .countBlank => Functions.countBlank args
  | .product => Functions.aggregate .product args
  | .sumProduct => Functions.sumProduct args
  | .rank => Functions.rank args
  | .subtotal => Functions.subtotal args
  | .countIf => Functions.countSelected "COUNTIF" args
  | .countIfs => Functions.countSelected "COUNTIFS" args
  | .sumIf => Functions.sumIf args
  | .sumIfs => Functions.sumIfs args
  | .abs => Functions.unary "ABS" Float.abs args
  | .acos => Functions.unary "ACOS" Float.acos args
  | .asin => Functions.unary "ASIN" Float.asin args
  | .atan => Functions.unary "ATAN" Float.atan args
  | .atan2 => Functions.atan2 args
  | .cos => Functions.unary "COS" Float.cos args
  | .sin => Functions.unary "SIN" Float.sin args
  | .tan => Functions.unary "TAN" Float.tan args
  | .exp => Functions.unary "EXP" Float.exp args
  | .ln => Functions.unary "LN" Float.log args
  | .log => Functions.log args
  | .log10 => Functions.unary "LOG10" Float.log10 args
  | .sqrt => Functions.unary "SQRT" Float.sqrt args
  | .floor => Functions.multiple "FLOOR" Decimal.floor args
  | .ceiling => Functions.multiple "CEILING" Decimal.ceiling args
  | .int => Functions.unary "INT" Decimal.floor args
  | .mod => Functions.mod args
  | .pi => .done (.number Functions.pi)
  | .power => Functions.power args
  | .sign => Functions.sign args
  | .rand => .done (.number c.draw)
  | .randBetween => Functions.randBetween c args
  | .round => Functions.rounded "ROUND" .nearest args
  | .roundDown => Functions.rounded "ROUNDDOWN" .down args
  | .roundUp => Functions.rounded "ROUNDUP" .up args
  | .trunc => Functions.trunc args
  | .conjunction => Functions.conjunction args
  | .disjunction => Functions.disjunction args
  | .branch => Functions.branch args
  | .negation => Functions.negation args
  | .isTrue => .done (.boolean true)
  | .isFalse => .done (.boolean false)
  | .left => Functions.left args
  | .right => Functions.right args
  | .mid => Functions.mid args
  | .len => Functions.len args
  | .find => Functions.find args
  | .search => Functions.search args
  | .replace => Functions.replace args
  | .substitute => Functions.substitute args
  | .rept => Functions.rept args
  | .upper => Functions.mapText Text.upper args
  | .lower => Functions.mapText Text.lower args
  | .proper => Functions.mapText Functions.proper args
  | .trim => Functions.mapText Functions.tidy args
  | .concatenate => Functions.concatenate args
  | .char => Functions.char args
  | .code => Functions.code args
  | .formatText => Functions.formatText c args
  | .valueOfText => Functions.valueOfText args
  | .onlyText => Functions.onlyText args
  | .exact => Functions.exact args
  | .now => .done (Functions.now c)
  | .today => .done (Functions.today c)
  | .year => Functions.part (fun m => m.date.civil.year) args
  | .month => Functions.part (fun m => m.date.civil.month) args
  | .day => Functions.part (fun m => m.date.civil.day) args
  | .hour => Functions.part (fun m => m.hour) args
  | .minute => Functions.part (fun m => m.minute) args
  | .second => Functions.part (fun m => m.second) args
  | .weekday => Functions.weekday args
  | .timeOf => Functions.timeOf args
  | .dateOf => Functions.dateOf args
  | .dateDif => Functions.dateDif args
  | .row => Functions.indexOf "ROW" (·.top) c.row args
  | .column => Functions.indexOf "COLUMN" (·.left) c.column args
  | .rows => Functions.measure "ROWS" (·.rows) args
  | .columns => Functions.measure "COLUMNS" (·.columns) args
  | .choose => Functions.choose args
  | .index => Functions.index args
  | .hLookup => Functions.tableLookup "HLOOKUP" .horizontal args
  | .vLookup => Functions.tableLookup "VLOOKUP" .vertical args
  | .position => Functions.position args
  | .rate => Functions.rate args

/-- The arguments as a function from outside is given them. -/
def parameters : List Argument → Program (List Parameter)
  | [] => return []
  | a :: rest => do
    let p := match ← a.operand with
      | .range r => Parameter.range r.range
      | .value v => Parameter.value v
    return p :: (← parameters rest)

/-- What a function computes. -/
def applyFunction (c : Context) (f : Function) (args : List Argument) : Program Value :=
  match f.body with
  | .builtin b => applyBuiltin c args b
  | .foreign g => do
    .ofExcept (g (← parameters args))

mutual

/-- The argument that an expression stands for. -/
def argumentOf (c : Context) : Expr → Argument
  | .literal v => .computed (.done v)
  | .reference r => .written r
  | .signed s e => .computed (applySign s (argumentOf c e))
  | .binary op l r => .computed (applyOperator op (argumentOf c l) (argumentOf c r))
  | .call f es => .computed (applyFunction c f (argumentsOf c es))

/-- The arguments that expressions stand for. -/
def argumentsOf (c : Context) : List Expr → List Argument
  | [] => []
  | e :: es => argumentOf c e :: argumentsOf c es

end

/-- The value of an expression. -/
def evaluate (c : Context) (e : Expr) : Program Value := (argumentOf c e).result

end Spreadsheet.Evaluation
