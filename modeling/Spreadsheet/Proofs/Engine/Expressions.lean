import Spreadsheet.Proofs.Decimal.WholePart
import Spreadsheet.Proofs.Engine.Trees

/-!
# What an engine computes expressions to

Where a function takes a number, an engine computes the expression that stands
there to one (`numberOf`).  Many functions only use the whole part of it
(`IsWhole`).  An engine at rest gives for a call of a function what the function
gives under the answers of all cells, as a formula of its own
(`AtRest.evaluates_call`) and in the place of an argument (`argumentOf_call`).
-/

namespace Spreadsheet.Engine

open Spreadsheet.Decimal (whole?)
open Spreadsheet.Evaluation
open Spreadsheet.Formula (Builtin Error Expr Function)
open Spreadsheet.Grid (Range)

/-- What an engine computes an expression to, where a function takes a number. -/
def numberOf (e : Engine) (h : Host) (o : Options) (ex : Expr) : Except Error Float :=
  (e.runProgram h (o.sheet.getD h.selected)
    (argumentOf ((e.surroundings h).context o) ex).number).1

/-- The number that the first of some expressions is computed to, or a default where there is
none. -/
def OptionalNumber (e : Engine) (h : Host) (o : Options) (default : Float) :
    List Expr → Float → Prop
  | [], x => x = default
  | ex :: _, x => e.numberOf h o ex = .ok x

/-- An expression is computed to a number with a whole part. -/
def IsWhole (e : Engine) (h : Host) (o : Options) (ex : Expr) (k : Int) : Prop :=
  ∃ x, e.numberOf h o ex = .ok x ∧ whole? x = some k

/-- An expression is computed to a text, where a function takes one. -/
def IsText (e : Engine) (h : Host) (o : Options) (ex : Expr) (s : String) : Prop :=
  (e.runProgram h (o.sheet.getD h.selected)
    (argumentOf ((e.surroundings h).context o) ex).text).1 = .ok s

/-- An expression stands for a range of cells on a sheet, where a function takes a range. -/
def IsRange (e : Engine) (h : Host) (o : Options) (ex : Expr) (i : Nat) (range : Range) : Prop :=
  ∃ r, (e.runProgram h (o.sheet.getD h.selected)
      (argumentOf ((e.surroundings h).context o) ex).operand).1 = .ok (.range r) ∧
    sheetOf h (o.sheet.getD h.selected) r = .ok i ∧ r.range = range

/-- A reference that is written stands for its range. -/
theorem isRange_reference {e : Engine} {h : Host} {o : Options} {r : Formula.Reference} {i : Nat}
    (hi : sheetOf h (o.sheet.getD h.selected) r = .ok i) :
    e.IsRange h o (.reference r) i r.range :=
  ⟨r, rfl, hi, rfl⟩

/-- A number that is written is computed to itself. -/
theorem numberOf_literal {e : Engine} {h : Host} {o : Options} {x : Float}
    (hx : x.isNaN = false) : e.numberOf h o (.literal (.number x)) = .ok x := by
  have hnumber : (Value.number x).expectNumber = .ok x := if_neg (ne_true_of_eq_false hx)
  change (e.runProgram h _ (.ofExcept (Value.number x).expectNumber)).1 = _
  rw [hnumber]
  rfl

theorem isWhole_literal {e : Engine} {h : Host} {o : Options} {x : Float} {k : Int}
    (hx : x.isNaN = false) (hk : whole? x = some k) :
    e.IsWhole h o (.literal (.number x)) k :=
  ⟨x, numberOf_literal hx, hk⟩

/-- What an engine computes a tree to, as a formula of its own. -/
def resultOf (e : Engine) (h : Host) (o : Options) (tree : Expr) : Except Error Value :=
  (e.runProgram h (o.sheet.getD h.selected) (settled ((e.surroundings h).context o) tree)).1

/-- Every formula with a tree has a result. -/
def Evaluates (e : Engine) (h : Host) (o : Options) (tree : Expr) (result : Except Error Value) :
    Prop :=
  ∀ text, treesOf e.registry text tree → (e.tryEvaluate h text o).1 = result

/-- Formulas with a tree have the results of those with another one. -/
def GivesSame (e : Engine) (h : Host) (o : Options) (tree tree' : Expr) : Prop :=
  ∀ text text', treesOf e.registry text tree → treesOf e.registry text' tree' →
    (e.tryEvaluate h text o).1 = (e.tryEvaluate h text' o).1

/-- An argument is computed to a number with a whole part. -/
def WholeUnder (q : Answers) (a : Argument) (k : Int) : Prop :=
  ∃ x, a.number.under q = .ok x ∧ whole? x = some k

/-- A call of a function that is built in stands for what the function computes. -/
theorem argumentOf_call {f : Function} {b : Builtin} (hf : f.body = .builtin b) (c : Context)
    (es : List Expr) :
    argumentOf c (.call f es) = .computed (applyBuiltin c (argumentsOf c es) b) := by
  simp only [argumentOf, applyFunction, hf]

namespace AtRest

variable {e : Engine} {h : Host} {o : Options} {f : Function} {b : Builtin} {es : List Expr}
  (he : e.AtRest) (hh : h.KnowsNoNames)
include he hh

theorem isWhole_iff {ex : Expr} {k : Int} : e.IsWhole h o ex k ↔
    WholeUnder (answers e.registry h (o.sheet.getD h.selected))
      (argumentOf ((e.surroundings h).context o) ex) k := by
  simp only [IsWhole, numberOf, WholeUnder, he.runProgram hh]

theorem operand_under_of_isRange {ex : Expr} {i : Nat} {range : Range}
    (hrange : e.IsRange h o ex i range) :
    ∃ r, (argumentOf ((e.surroundings h).context o) ex).operand.under
        (answers e.registry h (o.sheet.getD h.selected)) = .ok (.range r) ∧
      sheetOf h (o.sheet.getD h.selected) r = .ok i ∧ r.range = range := by
  rwa [IsRange, he.runProgram hh] at hrange

/-- Behind two arguments the third one is a number that may be left out. -/
theorem optionalNumber_under {default x : Float} {rest : List Expr}
    (hx : e.OptionalNumber h o default rest x) (a b : Argument) :
    (Evaluation.optionalNumber (a :: b :: argumentsOf ((e.surroundings h).context o) rest) 2
      default).under (answers e.registry h (o.sheet.getD h.selected)) = .ok x := by
  cases rest with
  | nil =>
    obtain rfl : x = default := hx
    rfl
  | cons ex rest =>
    rw [OptionalNumber, numberOf, he.runProgram hh] at hx
    exact hx

/-- A formula gives what its tree is computed to, in the format of the options. -/
theorem tryEvaluate_eq_resultOf {text : String} {tree : Expr}
    (htree : treesOf e.registry text tree) :
    (e.tryEvaluate h text o).1 =
      (e.resultOf h o tree).map (formatted (e.surroundings h) o.format) := by
  rw [he.tryEvaluate_eq_map hh htree, resultOf, he.runProgram hh]

/-- A call is computed to what the function gives, with a reference read. -/
theorem resultOf_call (hf : f.body = .builtin b) :
    e.resultOf h o (.call f es) =
      (applyBuiltin ((e.surroundings h).context o)
        (argumentsOf ((e.surroundings h).context o) es) b).under
          (answers e.registry h (o.sheet.getD h.selected)) >>=
            settledValue (answers e.registry h (o.sheet.getD h.selected)) := by
  rw [resultOf, he.runProgram hh, settled_under, evaluate_call hf]

/-- Two calls of a function give the same if it computes the same from their arguments. -/
theorem givesSame_call (hf : f.body = .builtin b) {es' : List Expr}
    (hcall : (applyBuiltin ((e.surroundings h).context o)
        (argumentsOf ((e.surroundings h).context o) es) b).under
          (answers e.registry h (o.sheet.getD h.selected)) =
      (applyBuiltin ((e.surroundings h).context o)
        (argumentsOf ((e.surroundings h).context o) es') b).under
          (answers e.registry h (o.sheet.getD h.selected))) :
    e.GivesSame h o (.call f es) (.call f es') := by
  intro text text' htext htext'
  rw [he.tryEvaluate_eq_map hh htext, he.tryEvaluate_eq_map hh htext', settled_under,
    settled_under, evaluate_call hf, evaluate_call hf, hcall]

/-- A formula that is a call gives what the function gives, with a reference read. -/
theorem evaluates_call (hf : f.body = .builtin b) (ho : o.format = none) {x : Except Error Value}
    (hcall : (applyBuiltin ((e.surroundings h).context o)
      (argumentsOf ((e.surroundings h).context o) es) b).under
        (answers e.registry h (o.sheet.getD h.selected)) = x) :
    e.Evaluates h o (.call f es)
      (x >>= settledValue (answers e.registry h (o.sheet.getD h.selected))) := by
  intro text htext
  rw [he.tryEvaluate_of_call hh hf htext ho, hcall]

end AtRest

end Spreadsheet.Engine
