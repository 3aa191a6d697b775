import Spreadsheet.Proofs.Evaluation.ExprScope

/-!
# Fixed expressions

An expression is *fixed* when its value depends neither on cells nor on where and
when it is computed (`Expr.isFixed`).  So it contains no references, and calls
only functions that are built in and look at nothing but their arguments.

The context in which it is computed does not show (`argumentOf_fixed`).
-/

namespace Spreadsheet

open Spreadsheet.Evaluation
open Spreadsheet.Formula (Builtin Error Expr Function Reference)

/-! ## Trees -/

/-- Whether a function looks at where or when it is computed, or at the display of values. -/
def Formula.Builtin.usesContext : Builtin → Bool
  | .rand | .randBetween | .formatText | .now | .today | .row | .column => true
  | _ => false

/-- Whether a function is built in and looks at its arguments alone. -/
def Formula.Function.isFixed (f : Function) : Bool :=
  match f.body with
  | .builtin b => !b.usesContext
  | .foreign _ => false

mutual

/-- Whether the value of an expression depends on nothing. -/
def Formula.Expr.isFixed : Expr → Bool
  | .literal v => v.isResult
  | .signed _ e => e.isFixed
  | .binary _ l r => l.isFixed && r.isFixed
  | .reference _ => false
  | .call f es => f.isFixed && Formula.Expr.areFixed es

/-- Whether the values of expressions depend on nothing. -/
def Formula.Expr.areFixed : List Expr → Bool
  | [] => true
  | e :: es => e.isFixed && Formula.Expr.areFixed es

end

/-! ## No context -/

namespace Evaluation

theorem applyFunction_fixed (c c' : Context) {f : Function} (hf : f.isFixed = true)
    (args : List Argument) : applyFunction c f args = applyFunction c' f args := by
  unfold Function.isFixed at hf
  unfold applyFunction
  generalize f.body = body at hf
  cases body with
  | foreign g => rfl
  | builtin b =>
    cases b
    case rand | randBetween | formatText | now | today | row | column =>
      exact Bool.noConfusion hf
    all_goals rfl

mutual

theorem argumentOf_fixed (c c' : Context) (e : Expr) (h : e.isFixed = true) :
    argumentOf c e = argumentOf c' e := by
  cases e with
  | literal v => rfl
  | signed s e =>
    simp only [argumentOf]
    rw [argumentOf_fixed c c' e h]
  | binary op l r =>
    obtain ⟨hl, hr⟩ := (Bool.and_eq_true _ _).mp h
    simp only [argumentOf]
    rw [argumentOf_fixed c c' l hl, argumentOf_fixed c c' r hr]
  | reference r => rfl
  | call f es =>
    obtain ⟨hf, hes⟩ := (Bool.and_eq_true _ _).mp h
    simp only [argumentOf]
    rw [argumentsOf_fixed c c' es hes, applyFunction_fixed c c' hf]

theorem argumentsOf_fixed (c c' : Context) (es : List Expr) (h : Expr.areFixed es = true) :
    argumentsOf c es = argumentsOf c' es := by
  cases es with
  | nil => rfl
  | cons e es =>
    obtain ⟨he, hes⟩ := (Bool.and_eq_true _ _).mp h
    simp only [argumentsOf]
    rw [argumentOf_fixed c c' e he, argumentsOf_fixed c c' es hes]

end

end Evaluation

/-! ## Values -/

namespace Engine

theorem rawValues_fixed (c c' : Context) {es : List Expr} (h : Expr.areFixed es = true) :
    rawValues c es = rawValues c' es := by
  induction es with
  | nil => rfl
  | cons e es ih =>
    obtain ⟨he, hes⟩ := (Bool.and_eq_true _ _).mp h
    simp only [rawValues]
    rw [argumentOf_fixed c c' e he, ih hes]

end Engine

end Spreadsheet
