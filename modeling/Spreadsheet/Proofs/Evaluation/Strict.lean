import Spreadsheet.Evaluation.Evaluate
import Spreadsheet.Proofs.Evaluation.Answers
import Spreadsheet.Proofs.Formula.Reads
import Spreadsheet.Proofs.Value.NotANumber

/-!
# Errors on their way through a formula

The first cell of a reference may be *spoilt*: reading it is refused, or its
value is the text of an error.  A formula that reads such a cell fails, unless
it is nothing but the reference (`argumentOf_fails`).  The basic operations and
the signs see to that, since the text of an error counts NaN and they refuse
NaN.  The reducing functions fail when one of their arguments fails to compute.

This says nothing about the cells of a range that a reducing function reads.
There the text of an error is one of the values that are left out.
-/

namespace Spreadsheet.Evaluation

open Spreadsheet.Formula (Builtin Error Expr Extent Function Operator Reference Sign)
open Spreadsheet.Functions (collect)

/-- An outcome that is an error, or the text of one. -/
def Spoilt (x : Except Error Value) : Prop := ∀ v, x = .ok v → v.IsErrorText

/-! ## Failing -/

section

variable {α β : Type} {q : Answers}

/-- A program fails under answers. -/
def Program.Fails (q : Answers) (p : Program α) : Prop := ∃ e, p.under q = .error e

theorem Program.Fails.bind {p : Program α} (h : p.Fails q) (f : α → Program β) :
    (p >>= f).Fails q := by
  obtain ⟨e, he⟩ := h
  refine ⟨e, ?_⟩
  rw [bind_eq, under_bind, he]
  rfl

theorem Program.fails_bind {p : Program α} {f : α → Program β}
    (h : ∀ a, p.under q = .ok a → (f a).Fails q) : (p >>= f).Fails q := by
  unfold Fails
  rw [bind_eq, under_bind]
  cases hp : p.under q with
  | ok a => exact h a hp
  | error e => exact ⟨e, rfl⟩

theorem Program.fails_ofExcept {x : Except Error α} {e : Error} (h : x = .error e) :
    (ofExcept x).Fails q := by
  rw [h]
  exact ⟨e, rfl⟩

theorem Spoilt.of_fails {p : Program Value} (h : p.Fails q) : Spoilt (p.under q) := by
  obtain ⟨e, he⟩ := h
  rw [he]
  exact nofun

/-! ## Arguments -/

theorem value_written (r : Reference) : (Argument.written r).value.under q = q.cell r := by
  simp [Argument.value, Argument.operand]

theorem value_fails {p : Program Value} (h : p.Fails q) : (Argument.computed p).value.Fails q :=
  (h.bind _).bind _

theorem values_fails {p : Program Value} (h : p.Fails q) (includeHidden : Bool) :
    ((Argument.computed p).values includeHidden).Fails q :=
  (h.bind _).bind _

/-! ## Operators and signs -/

theorem checked_of_isNaN {x : Float} (h : x.isNaN = true) : checked x = .error .badExpression := by
  rw [checked, if_pos h]

/-- A basic operation fails where one of the operands counts NaN. -/
theorem operatorResult_of_isNaN {op : Operator} (hop : op.isBasic = true) {left right : Value}
    (h : left.toNumber.isNaN = true ∨ right.toNumber.isNaN = true) :
    operatorResult op left right = .error .badExpression := by
  cases op with
  | add => exact checked_of_isNaN (isNaN_add h)
  | subtract => exact checked_of_isNaN (isNaN_sub h)
  | multiply => exact checked_of_isNaN (isNaN_mul h)
  | divide => exact checked_of_isNaN (isNaN_div h)
  | _ => cases hop

theorem applyOperator_fails {op : Operator} (hop : op.isBasic = true) {a b : Argument}
    (h : Spoilt (a.value.under q) ∨ Spoilt (b.value.under q)) : (applyOperator op a b).Fails q := by
  apply Program.fails_bind
  intro left hleft
  apply Program.fails_bind
  intro right hright
  apply Program.fails_ofExcept
  apply operatorResult_of_isNaN hop
  rcases h with h | h
  · exact .inl (h left hleft).isNaN
  · exact .inr (h right hright).isNaN

/-- A sign fails where its operand counts NaN. -/
theorem signResult_of_isNaN (s : Sign) {v : Value} (h : v.toNumber.isNaN = true) :
    signResult s v = .error .badExpression := by
  simp only [signResult, h, if_true]

theorem applySign_fails (s : Sign) {a : Argument} (h : Spoilt (a.value.under q)) :
    (applySign s a).Fails q := by
  apply Program.fails_bind
  intro v hv
  exact Program.fails_ofExcept (signResult_of_isNaN s (h v hv).isNaN)

/-! ## Functions -/

theorem applyBuiltin_of_isReducing (c : Context) (args : List Argument) {b : Builtin}
    (hb : b.isReducing = true) :
    ∃ kind, applyBuiltin c args b = Functions.aggregate kind args := by
  cases b with
  | sum => exact ⟨.sum, rfl⟩
  | average => exact ⟨.average, rfl⟩
  | min => exact ⟨.min, rfl⟩
  | max => exact ⟨.max, rfl⟩
  | count => exact ⟨.count, rfl⟩
  | _ => cases hb

theorem applyFunction_fails (c : Context) {f : Function} (hf : f.isReducing = true)
    {args : List Argument} (h : (collect true args).Fails q) :
    (applyFunction c f args).Fails q := by
  unfold Function.isReducing at hf
  unfold applyFunction
  cases hbody : f.body with
  | foreign g =>
    rw [hbody] at hf
    cases hf
  | builtin b =>
    rw [hbody] at hf
    obtain ⟨kind, hkind⟩ := applyBuiltin_of_isReducing c args hf
    dsimp only
    rw [hkind]
    exact h.bind _

end

/-! ## Expressions -/

section

variable {q : Answers} {r : Reference}

theorem spoilt_value_of_fails (hr : Spoilt (q.cell r)) {c : Context} {e : Expr}
    (h : e = .reference r ∨ ∃ p, argumentOf c e = .computed p ∧ p.Fails q) :
    Spoilt ((argumentOf c e).value.under q) := by
  rcases h with rfl | ⟨p, hp, hfails⟩
  · rw [argumentOf, value_written]
    exact hr
  · rw [hp]
    exact .of_fails (value_fails hfails)

mutual

/-- An expression that reads a spoilt cell fails, unless it is the reference to it. -/
theorem argumentOf_fails (hr : Spoilt (q.cell r)) (c : Context) (e : Expr)
    (h : (r, .first) ∈ e.reads) :
    e = .reference r ∨ ∃ p, argumentOf c e = .computed p ∧ p.Fails q := by
  cases e with
  | literal v => cases h
  | reference s =>
    simp only [Expr.reads, List.mem_singleton, Prod.mk.injEq, and_true] at h
    exact .inl (congrArg _ h.symm)
  | signed s e =>
    have hspoilt := spoilt_value_of_fails hr (argumentOf_fails hr c e h)
    exact .inr ⟨_, rfl, applySign_fails s hspoilt⟩
  | binary op left right =>
    rw [Expr.reads] at h
    split at h
    next hop =>
      refine .inr ⟨_, rfl, applyOperator_fails hop ?_⟩
      rcases List.mem_append.1 h with h | h
      · exact .inl (spoilt_value_of_fails hr (argumentOf_fails hr c left h))
      · exact .inr (spoilt_value_of_fails hr (argumentOf_fails hr c right h))
    next => cases h
  | call f es =>
    rw [Expr.reads] at h
    split at h
    next hf => exact .inr ⟨_, rfl, applyFunction_fails c hf (collect_fails hr c es h)⟩
    next => cases h

/-- Arguments of a reducing function that read a spoilt cell cannot be collected. -/
theorem collect_fails (hr : Spoilt (q.cell r)) (c : Context) (es : List Expr)
    (h : (r, .first) ∈ Expr.argumentReads es) :
    (collect true (argumentsOf c es)).Fails q := by
  cases es with
  | nil => cases h
  | cons e es =>
    rw [argumentsOf, collect]
    rw [Expr.argumentReads, List.mem_append] at h
    rcases h with h | h
    · obtain ⟨hreads, hne⟩ := Expr.reads_of_argumentRead h
      obtain rfl | ⟨p, hp, hfails⟩ := argumentOf_fails hr c e hreads
      · exact absurd rfl hne
      · rw [hp]
        exact (values_fails hfails true).bind _
    · exact Program.fails_bind fun vs _ => (collect_fails hr c es h).bind _

end

end

end Spreadsheet.Evaluation
