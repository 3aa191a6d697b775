import Spreadsheet.Proofs.Evaluation.Defined

/-!
# Leaks

NaN *leaks* from an expression where it is written as a number, or where a
function gives it that does not look at what it has computed, and nothing around
checks it (`Expr.leaks`).  Signs and operators check their results, and so do all
functions that are built in other than those that reduce lists.  An expression
that does not leak does not give NaN, as long as the answers do not
(`argumentOf_defined`).  Most expressions end in a check and never leak
(`Expr.isChecked`).

Only the answers to what a program asks for matter.  To say so, the answers
without NaN are taken out of the others (`Answers.defined`).
-/

namespace Spreadsheet

open Spreadsheet.Evaluation
open Spreadsheet.Formula (Builtin Error Expr Function Reference)

/-! ## Expressions -/

/-- Whether an outcome is NaN. -/
def Value.isUndefinedIn : Except Error Value → Bool
  | .ok v => v.isUndefined
  | .error _ => false

/-- Whether a function gives what one of its arguments gives. -/
def Formula.Function.passesArguments (f : Function) : Bool :=
  match f.body with
  | .builtin b => b.passesArguments
  | .foreign _ => false

/-- Whether a function gives what it computes without a look at it.  Nothing is known of a function
from outside. -/
def Formula.Function.isUnchecked (f : Function) : Bool :=
  match f.body with
  | .builtin b => b.reducesUnchecked
  | .foreign _ => true

mutual

/-- Whether NaN leaks from an expression under the answers. -/
def Formula.Expr.leaks (c : Context) (q : Answers) : Expr → Bool
  | .literal v => v.isUndefined
  | .signed _ _ => false
  | .binary _ _ _ => false
  | .reference _ => false
  | .call f es =>
    (f.passesArguments && anyLeaks c q es) ||
      (f.isUnchecked && Value.isUndefinedIn ((applyFunction c f (argumentsOf c es)).under q))

/-- Whether NaN leaks from one of several expressions. -/
def Formula.Expr.anyLeaks (c : Context) (q : Answers) : List Expr → Bool
  | [] => false
  | e :: es => e.leaks c q || anyLeaks c q es

end

mutual

/-- Whether an expression ends in a check: its result is no NaN that is written in it, and comes
from no function without a check. -/
def Formula.Expr.isChecked : Expr → Bool
  | .literal v => !v.isUndefined
  | .signed _ _ => true
  | .binary _ _ _ => true
  | .reference _ => true
  | .call f es => !f.isUnchecked && (!f.passesArguments || areChecked es)

/-- Whether each of several expressions ends in a check. -/
def Formula.Expr.areChecked : List Expr → Bool
  | [] => true
  | e :: es => e.isChecked && areChecked es

end

namespace Evaluation

variable {q : Answers}

/-- A program whose outcome is not NaN does not give NaN. -/
theorem Program.defined_iff {p : Program Value} :
    p.Defined q ↔ Value.isUndefinedIn (p.under q) = false := by
  constructor
  · intro h
    cases hx : p.under q with
    | ok v => exact h.of_under hx
    | error e => rfl
  · intro h
    refine ⟨fun {v} hv => ?_⟩
    rw [hv] at h
    exact h

theorem applyFunction_defined {c : Context} (hdraw : c.draw.isNaN = false) (hq : q.AreDefined)
    {f : Function} {args : List Argument}
    (hargs : f.passesArguments = true → ∀ a ∈ args, a.Defined q)
    (hf : f.isUnchecked = true → (applyFunction c f args).Defined q) :
    (applyFunction c f args).Defined q := by
  unfold Function.passesArguments at hargs
  unfold Function.isUnchecked at hf
  unfold applyFunction at hf ⊢
  cases hbody : f.body with
  | builtin b =>
    rw [hbody] at hargs hf
    exact applyBuiltin_defined hdraw hq hargs hf
  | foreign g =>
    rw [hbody] at hf
    exact hf rfl

mutual

/-- An expression that does not leak does not give NaN. -/
theorem argumentOf_defined {c : Context} (hdraw : c.draw.isNaN = false) (hq : q.AreDefined)
    (e : Expr) (h : e.leaks c q = false) : (argumentOf c e).Defined q := by
  cases e with
  | literal v => exact .done h
  | reference r => exact .cell hq r
  | signed s e => exact applySign_defined s _
  | binary op l r => exact applyOperator_defined op _ _
  | call f es =>
    simp only [Expr.leaks, Bool.or_eq_false_iff, Bool.and_eq_false_imp] at h
    exact applyFunction_defined hdraw hq (fun hf => argumentsOf_defined hdraw hq es (h.1 hf))
      fun hf => Program.defined_iff.2 (h.2 hf)

theorem argumentsOf_defined {c : Context} (hdraw : c.draw.isNaN = false) (hq : q.AreDefined)
    (es : List Expr) (h : Expr.anyLeaks c q es = false) :
    ∀ a ∈ argumentsOf c es, a.Defined q := by
  cases es with
  | nil => exact fun a ha => absurd ha List.not_mem_nil
  | cons e es =>
    rw [Expr.anyLeaks, Bool.or_eq_false_iff] at h
    intro a ha
    rcases List.mem_cons.1 ha with rfl | ha
    · exact argumentOf_defined hdraw hq e h.1
    · exact argumentsOf_defined hdraw hq es h.2 a ha

end

mutual

/-- An expression that ends in a check does not leak, whatever the answers are. -/
theorem leaks_of_isChecked (c : Context) (q : Answers) (e : Expr) (h : e.isChecked = true) :
    e.leaks c q = false := by
  cases e with
  | literal v => simpa [Expr.isChecked, Expr.leaks] using h
  | call f es =>
    simp only [Expr.isChecked, Bool.and_eq_true, Bool.not_eq_true', Bool.or_eq_true] at h
    obtain ⟨hf, hpasses | hes⟩ := h
    · simp [Expr.leaks, hf, hpasses]
    · simp [Expr.leaks, hf, anyLeaks_of_areChecked c q es hes]
  | _ => rfl

theorem anyLeaks_of_areChecked (c : Context) (q : Answers) (es : List Expr)
    (h : Expr.areChecked es = true) : Expr.anyLeaks c q es = false := by
  cases es with
  | nil => rfl
  | cons e es =>
    rw [Expr.areChecked, Bool.and_eq_true] at h
    rw [Expr.anyLeaks, leaks_of_isChecked c q e h.1, anyLeaks_of_areChecked c q es h.2]
    rfl

end

/-! ## What a program asks for -/

variable {α : Type}

/-- Whether a program asks for cells of a reference, given the answers. -/
def Program.Asks (q : Answers) (ref : Reference) : Program α → Prop
  | .done _ => False
  | .fail _ => False
  | .readCell r next => r = ref ∨ ∃ v, q.cell r = .ok v ∧ (next v).Asks q ref
  | .readCells r hidden next =>
    r = ref ∨ ∃ vs, q.cells r hidden = .ok vs ∧ (next vs).Asks q ref

/-- The answers without NaN.  Where there would be NaN, an answer is refused. -/
def Answers.defined (q : Answers) : Answers where
  cell r :=
    match q.cell r with
    | .ok v => if v.isUndefined then .error .badExpression else .ok v
    | .error e => .error e
  cells r hidden :=
    match q.cells r hidden with
    | .ok vs => if vs.any Value.isUndefined then .error .badExpression else .ok vs
    | .error e => .error e

/-- The answers for a reference are defined. -/
structure Answers.DefinedAt (q : Answers) (r : Reference) : Prop where
  /-- The value of its first cell is defined. -/
  cell : ∀ {v}, q.cell r = .ok v → v.isUndefined = false
  /-- The values of its cells are defined. -/
  cells : ∀ {hidden vs}, q.cells r hidden = .ok vs → ∀ v ∈ vs, v.isUndefined = false

namespace Answers

theorem of_defined_cell {r : Reference} {v : Value} (h : q.defined.cell r = .ok v) :
    q.cell r = .ok v ∧ v.isUndefined = false := by
  simp only [defined] at h
  split at h
  next w hw =>
    split at h
    next => cases h
    next hv =>
      cases h
      exact ⟨hw, Bool.eq_false_iff.2 hv⟩
  next => cases h

theorem of_defined_cells {r : Reference} {hidden : Bool} {vs : List Value}
    (h : q.defined.cells r hidden = .ok vs) :
    q.cells r hidden = .ok vs ∧ ∀ v ∈ vs, v.isUndefined = false := by
  simp only [defined] at h
  split at h
  next ws hws =>
    split at h
    next => cases h
    next hvs =>
      cases h
      exact ⟨hws, fun v hv => Bool.eq_false_iff.2 fun hundefined =>
        hvs (List.any_eq_true.2 ⟨v, hv, hundefined⟩)⟩
  next => cases h

theorem defined_areDefined (q : Answers) : q.defined.AreDefined where
  cell h := (of_defined_cell h).2
  cells h := (of_defined_cells h).2

theorem DefinedAt.defined_cell {r : Reference} (h : q.DefinedAt r) :
    q.defined.cell r = q.cell r := by
  simp only [defined]
  split
  next v hv => simp [hv, h.cell hv]
  next e he => rw [he]

theorem DefinedAt.defined_cells {r : Reference} (h : q.DefinedAt r) (hidden : Bool) :
    q.defined.cells r hidden = q.cells r hidden := by
  simp only [defined]
  split
  next vs hvs => simpa [hvs] using h.cells hvs
  next e he => rw [he]

end Answers

namespace Program

variable {p : Program α}

/-- What a program gives without NaN among the answers, it gives. -/
theorem under_of_defined {a : α} (h : p.under q.defined = .ok a) : p.under q = .ok a := by
  induction p with
  | done b => exact h
  | fail e => cases h
  | readCell r next ih =>
    simp only [under] at h ⊢
    split at h
    next v hv =>
      rw [(Answers.of_defined_cell hv).1]
      exact ih v h
    next => cases h
  | readCells r hidden next ih =>
    simp only [under] at h ⊢
    split at h
    next vs hvs =>
      rw [(Answers.of_defined_cells hvs).1]
      exact ih vs h
    next => cases h

/-- The answers without NaN are all that matters where what a program asks for is defined. -/
theorem under_defined (h : ∀ r, p.Asks q r → q.DefinedAt r) : p.under q.defined = p.under q := by
  induction p with
  | done a => rfl
  | fail e => rfl
  | readCell r next ih =>
    simp only [under, (h r (.inl rfl)).defined_cell]
    split
    next v hv => exact ih v fun r' hr' => h r' (.inr ⟨v, hv, hr'⟩)
    next => rfl
  | readCells r hidden next ih =>
    simp only [under, (h r (.inl rfl)).defined_cells]
    split
    next vs hvs => exact ih vs fun r' hr' => h r' (.inr ⟨vs, hvs, hr'⟩)
    next => rfl

end Program

/-- Without NaN among the answers no more leaks. -/
theorem isUndefinedIn_defined {p : Program Value}
    (h : Value.isUndefinedIn (p.under q) = false) :
    Value.isUndefinedIn (p.under q.defined) = false := by
  cases hx : p.under q.defined with
  | error e => rfl
  | ok v =>
    rw [Program.under_of_defined hx] at h
    exact h

mutual

theorem leaks_defined (c : Context) (e : Expr) (h : e.leaks c q = false) :
    e.leaks c q.defined = false := by
  cases e with
  | literal v => exact h
  | call f es =>
    simp only [Expr.leaks, Bool.or_eq_false_iff, Bool.and_eq_false_imp] at h ⊢
    exact ⟨fun hf => anyLeaks_defined c es (h.1 hf), fun hf => isUndefinedIn_defined (h.2 hf)⟩
  | _ => rfl

theorem anyLeaks_defined (c : Context) (es : List Expr) (h : Expr.anyLeaks c q es = false) :
    Expr.anyLeaks c q.defined es = false := by
  cases es with
  | nil => rfl
  | cons e es =>
    rw [Expr.anyLeaks, Bool.or_eq_false_iff] at h ⊢
    exact ⟨leaks_defined c e h.1, anyLeaks_defined c es h.2⟩

end

end Evaluation

end Spreadsheet
