import Spreadsheet.Proofs.Evaluation.FunctionScope
import Spreadsheet.Proofs.Formula.Hostless

/-!
# The scope of a formula

The scope of a formula consists of the references that are written in it, and of
their parts on the same sheet.  A formula that calls only functions that are
built in asks for nothing else, neither while it is parsed nor while it is
computed, and its value is a result (`formula_within`).

This holds for formulas that cannot be parsed, too.  A name that is unknown is
refused only after its arguments have been computed, and these are trees of the
same scope.
-/

namespace Spreadsheet

open Spreadsheet.Evaluation
open Spreadsheet.Formula (Error Expr Function Mirrors Parts Reference Refusal Registry Supplies)

/-! ## Trees -/

/-- A function that is built in. -/
def Formula.Function.IsBuiltin (f : Function) : Prop := ∃ b, f.body = .builtin b

theorem Formula.Registry.standard_isBuiltin {name : String} {f : Function}
    (h : Registry.standard.find? name = some f) : f.IsBuiltin := by
  unfold Registry.find? at h
  have hmem : f ∈ Registry.standard.functions := List.mem_of_find?_eq_some h
  obtain ⟨b, -, rfl⟩ := List.mem_map.1 hmem
  exact ⟨b, rfl⟩

namespace Evaluation

variable {S : Scope}

/-- The parts of trees in a scope. -/
def Scope.parts (S : Scope) : Parts where
  literal v := v.isResult = true
  reference := S.has
  function := Function.IsBuiltin

theorem applyFunction_within (c : Context) {f : Function} (hf : f.IsBuiltin)
    {args : List Argument} (h : ∀ a ∈ args, a.Within S) :
    (applyFunction c f args).Within S S.Allows := by
  obtain ⟨b, hb⟩ := hf
  unfold applyFunction
  rw [hb]
  exact applyBuiltin_within c h b

mutual

theorem argumentOf_within (c : Context) (e : Expr) (h : e.MadeOf S.parts) :
    (argumentOf c e).Within S := by
  cases e with
  | literal v => exact Scope.allows_of_isResult h
  | reference r => exact h
  | signed s e => exact applySign_within s (argumentOf_within c e h)
  | binary op l r =>
    exact applyOperator_within op (argumentOf_within c l h.1) (argumentOf_within c r h.2)
  | call f es => exact applyFunction_within c h.1 (argumentsOf_within c es h.2)

theorem argumentsOf_within (c : Context) (es : List Expr) (h : Expr.AllMadeOf S.parts es) :
    ∀ a ∈ argumentsOf c es, a.Within S := by
  cases es with
  | nil => exact fun a ha => absurd ha List.not_mem_nil
  | cons e es =>
    intro a ha
    rcases List.mem_cons.1 ha with rfl | ha
    · exact argumentOf_within c e h.1
    · exact argumentsOf_within c es h.2 a ha

end

end Evaluation

namespace Engine

variable {S : Scope}

/-- A tree in a scope gives a result. -/
theorem settled_within (c : Context) {e : Expr} (h : e.MadeOf S.parts) :
    (settled c e).Within S fun v => v.isResult = true := by
  apply Program.Within.bind (argumentOf_within c e h).result
  intro v hv
  cases v with
  | reference r => exact .cell hv
  | _ => exact hv

theorem rawValues_within (c : Context) {es : List Expr} (h : Expr.AllMadeOf S.parts es) :
    (rawValues c es).Within S fun _ => True := by
  induction es with
  | nil => trivial
  | cons e es ih =>
    apply Program.Within.bind (argumentOf_within c e h.1).value
    intro v _
    apply Program.Within.bind (ih h.2)
    intro vs _
    trivial

/-! ## Formulas -/

/-- A program that stays in a scope and never gives anything. -/
def within (S : Scope) : Refusal where
  holds p := p.Within S fun _ => False
  bind _ h := h.bind fun _ hf => hf.elim
  fail he := he

/-- The references of a list and their parts. -/
def scopeOf (rs : List Reference) : Scope where
  has r := ∃ w ∈ rs, r.sheet = w.sheet ∧ r.range.Within w.range
  part := by
    rintro r s ⟨w, hw, hsheet, hr⟩ hs hsr
    exact ⟨w, hw, hs.trans hsheet, hsr.trans hr⟩

theorem scopeOf_has {rs : List Reference} {r : Reference} (h : r ∈ rs) : (scopeOf rs).has r :=
  ⟨r, h, rfl, .refl _⟩

/-- The scope of a formula without its `=`. -/
def formulaScope (registry : Registry) (body : String) : Scope :=
  scopeOf (Formula.references registry body)

/-- What mirrors an outcome in a scope stays there. -/
theorem within_of_mirrors {α : Type} {post : α → Prop} {p : Program α} {x : Except Error α}
    (h : Mirrors (Engine.within S) post p x) : p.Within S post := by
  cases x with
  | ok a =>
    obtain ⟨rfl, ha⟩ := h
    exact ha
  | error e => exact Program.Within.mono h fun _ hf => hf.elim

/-- Parsing stays in the scope of what is written, and so does a tree that it gives. -/
theorem parse_within {s : Surroundings} (hs : s.host.KnowsNoNames)
    (hregistry : s.registry = .standard) (c : Context) (body : String) :
    (s.parse c body).Within (formulaScope s.registry body)
      (Expr.MadeOf (formulaScope s.registry body).parts) := by
  apply within_of_mirrors
  apply parse_mirrors hs
  · intro name f hf
    rw [hregistry] at hf
    exact Registry.standard_isBuiltin hf
  · intro name es hes
    exact (rawValues_within c hes).bind fun _ _ => .fail nofun
  · apply Formula.supplies_scan
    · exact fun _ => rfl
    · exact fun _ => rfl
    · exact fun _ => rfl
    · exact fun r hr => scopeOf_has hr

/-- A formula without its `=`, parsed and computed. -/
def Surroundings.formula (s : Surroundings) (c : Context) (body : String) : Program Value := do
  settled c (← s.parse c body)

/-- A formula asks for nothing beyond its scope and gives a result. -/
theorem formula_within {s : Surroundings} (hs : s.host.KnowsNoNames)
    (hregistry : s.registry = .standard) (c : Context) (body : String) :
    (s.formula c body).Within (formulaScope s.registry body) fun v => v.isResult = true :=
  (parse_within hs hregistry c body).bind fun _ he => settled_within c he

end Engine

end Spreadsheet
