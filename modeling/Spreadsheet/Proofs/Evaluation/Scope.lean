import Spreadsheet.Evaluation.Argument
import Spreadsheet.Proofs.Evaluation.Answers
import Spreadsheet.Proofs.Grid.Part

/-!
# The scope of a program

A program is within a *scope* when all cells it asks for lie in ranges of the
scope.  A scope is a set of references that has, with each reference, the parts
of its range on the same sheet.  So narrowing a reference does not leave it.

What a program asks for depends on the values it has been answered.
`Program.Within` therefore speaks of all answers, as long as they are *results*:
values in which no reference is hidden, and where only numbers and moments carry
a format.  It adds a condition on what the program gives, and says that the
program never fails with a circular reference of its own accord.  That error
comes from reading alone.

* Two programs in sequence are within a scope when both are
  (`Program.Within.bind`).
* Under answers that agree on the scope a program gives the same result
  (`Program.Within.under_congr`), and what it gives satisfies the condition
  (`Program.Within.of_under`).
* An argument within a scope stays there in each of the ways in which functions
  use it.  This is what the functions in `Proofs.Evaluation.FunctionScope` rest
  on.
-/

namespace Spreadsheet

open Spreadsheet.Formula (Error Reference)

/-! ## Results -/

/-- Whether a value can be the result of a formula: it is no reference, and only a number or a
moment carries a format. -/
def Value.isResult : Value → Bool
  | .reference _ => false
  | .formatted (.number _) _ => true
  | .formatted (.date _) _ => true
  | .formatted _ _ => false
  | _ => true

namespace Value

theorem isResult_raw {v : Value} (h : v.isResult = true) : v.raw.isResult = true := by
  cases v with
  | formatted v format => cases v <;> simp_all [isResult, raw]
  | _ => simpa [raw] using h

/-- A result is no reference. -/
theorem ne_reference {v : Value} (h : v.isResult = true) (r : Reference) : v ≠ .reference r := by
  rintro rfl
  simp [isResult] at h

theorem isResult_ofContent (c : Grid.Content) : (ofContent c).isResult = true := by
  cases c <;> rfl

end Value

/-! ## Regular outcomes -/

/-- An outcome is regular when it has a property, or is an error other than those that come from
reading: a circular reference, and an argument or an entry that is missing. -/
inductive Regular {α : Type} (post : α → Prop) : Except Error α → Prop where
  /-- It has the property. -/
  | ok {a} : post a → Regular post (.ok a)
  /-- It is another error. -/
  | error {e} : e ≠ .circularReference → e ≠ .missingArgument → Regular post (.error e)

section

variable {α β : Type} {post : α → Prop} {x : Except Error α}

@[simp] theorem regular_ok {a : α} : Regular post (.ok a) ↔ post a :=
  ⟨fun | .ok h => h, .ok⟩

@[simp] theorem regular_error {e : Error} :
    Regular post (.error e) ↔ e ≠ .circularReference ∧ e ≠ .missingArgument :=
  ⟨fun | .error h h' => ⟨h, h'⟩, fun h => .error h.1 h.2⟩

theorem Regular.bind {f : α → Except Error β} {post' : β → Prop} (h : Regular post x)
    (hf : ∀ a, post a → Regular post' (f a)) : Regular post' (x >>= f) := by
  cases h with
  | ok ha => exact hf _ ha
  | error he he' => exact .error he he'

theorem Regular.map {f : α → β} {post' : β → Prop} (h : Regular post x)
    (hf : ∀ a, post a → post' (f a)) : Regular post' (x.map f) := by
  cases h with
  | ok ha => exact .ok (hf _ ha)
  | error he he' => exact .error he he'

end

namespace Value

theorem expectNumber_regular (v : Value) : Regular (fun _ => True) v.expectNumber := by
  simp only [expectNumber]
  split <;> simp

theorem toBoolean_regular (v : Value) : Regular (fun _ => True) v.toBoolean := by
  unfold toBoolean
  generalize v.raw = w
  cases w with
  | text s =>
    -- The tests of the words are generalized, or else they are computed at every step.
    dsimp only
    generalize isWord "true" (Text.trim s) = isTrue
    generalize (isWord "false" (Text.trim s) || (Text.trim s).isEmpty) = isFalse
    generalize readNumber? (Text.trim s) = number
    cases isTrue <;> cases isFalse <;> cases number <;> simp
  | _ => simp

theorem toMoment_regular (v : Value) : Regular (fun _ => True) v.toMoment := by
  unfold toMoment
  dsimp only
  split <;> simp

end Value

/-! ## Scopes -/

namespace Evaluation

/-- A set of references that has the parts of its ranges. -/
structure Scope where
  /-- Whether a reference belongs to the scope. -/
  has : Reference → Prop
  /-- A part of a range belongs to the scope with the range. -/
  part : ∀ {r s : Reference}, has r → s.sheet = r.sheet → s.range.Within r.range → has s

/-- What an expression may give: a result, or a reference of the scope. -/
def Scope.Allows (S : Scope) : Value → Prop
  | .reference r => S.has r
  | v => v.isResult = true

namespace Scope

variable {S : Scope}

theorem allows_of_isResult {v : Value} (h : v.isResult = true) : S.Allows v := by
  cases v with
  | reference r => exact absurd rfl (Value.ne_reference h r)
  | _ => exact h

theorem withRange {r : Reference} (h : S.has r) {range : Grid.Range} (hr : range.Within r.range) :
    S.has (r.withRange range) :=
  S.part h rfl hr

end Scope

variable {α β : Type} {S : Scope} {post : α → Prop}

/-- Every request of a program lies in a scope and its result satisfies a condition, whatever
results it is answered. -/
def Program.Within (S : Scope) (post : α → Prop) : Program α → Prop
  | .done a => post a
  | .fail e => e ≠ .circularReference
  | .readCell r next => S.has r ∧ ∀ v, v.isResult = true → (next v).Within S post
  | .readCells r _ next =>
    S.has r ∧ ∀ vs : List Value, (∀ v ∈ vs, v.isResult = true) → (next vs).Within S post

namespace Program.Within

theorem done {a : α} (h : post a) : (Program.done a).Within S post := h

theorem fail {e : Error} (h : e ≠ .circularReference) :
    (Program.fail e : Program α).Within S post := h

theorem mono {p : Program α} {post' : α → Prop} (hp : p.Within S post)
    (h : ∀ a, post a → post' a) : p.Within S post' := by
  induction p with
  | done a => exact h a hp
  | fail e => exact hp
  | readCell r next ih => exact ⟨hp.1, fun v hv => ih v (hp.2 v hv)⟩
  | readCells r hidden next ih => exact ⟨hp.1, fun vs hvs => ih vs (hp.2 vs hvs)⟩

/-- A program that goes on with others stays in the scope when they do for what it gives. -/
theorem bind {p : Program α} {f : α → Program β} {post' : β → Prop} (hp : p.Within S post)
    (hf : ∀ a, post a → (f a).Within S post') : (p >>= f).Within S post' := by
  induction p with
  | done a => exact hf a hp
  | fail e => exact hp
  | readCell r next ih => exact ⟨hp.1, fun v hv => ih v (hp.2 v hv)⟩
  | readCells r hidden next ih => exact ⟨hp.1, fun vs hvs => ih vs (hp.2 vs hvs)⟩

theorem ofExcept {x : Except Error α} (hx : Regular post x) :
    (Program.ofExcept x).Within S post := by
  cases hx with
  | ok ha => exact ha
  | error he _ => exact he

theorem cell {r : Reference} (h : S.has r) :
    (Program.cell r).Within S fun v => v.isResult = true :=
  ⟨h, fun _ hv => hv⟩

theorem cells {r : Reference} (h : S.has r) (hidden : Bool) :
    (Program.cells r hidden).Within S fun vs => ∀ v ∈ vs, v.isResult = true :=
  ⟨h, fun _ hvs => hvs⟩

theorem entriesFrom (xs : List β) (i : Nat) :
    (Program.entriesFrom xs i).Within S fun ys => ∀ y ∈ ys, y ∈ xs := by
  unfold Program.entriesFrom
  split
  · exact .done fun y hy => List.mem_of_mem_drop hy
  · exact .fail (by simp)

theorem entriesBefore (xs : List β) (i : Nat) :
    (Program.entriesBefore xs i).Within S fun ys => ∀ y ∈ ys, y ∈ xs := by
  unfold Program.entriesBefore
  split
  · exact .done fun y hy => List.mem_of_mem_take hy
  · exact .fail (by simp)

end Program.Within

/-! ## Answers and scopes -/

/-- Answers whose values are results. -/
structure Answers.AreResults (q : Answers) : Prop where
  /-- The value of a cell is a result. -/
  cell : ∀ {r v}, q.cell r = .ok v → v.isResult = true
  /-- The values of cells are results. -/
  cells : ∀ {r hidden vs}, q.cells r hidden = .ok vs → ∀ v ∈ vs, v.isResult = true

/-- Two answers agree on the references of a scope. -/
structure Answers.AgreeOn (S : Scope) (q q' : Answers) : Prop where
  /-- They agree on the first cell of a reference. -/
  cell : ∀ {r}, S.has r → q.cell r = q'.cell r
  /-- They agree on the cells of a reference. -/
  cells : ∀ {r hidden}, S.has r → q.cells r hidden = q'.cells r hidden

namespace Program.Within

variable {p : Program α} {q q' : Answers}

/-- What a program gives satisfies its condition. -/
theorem of_under (hq : q.AreResults) (hp : p.Within S post) {a : α} (h : p.under q = .ok a) :
    post a := by
  induction p with
  | done b =>
    cases h
    exact hp
  | fail e => cases h
  | readCell r next ih =>
    simp only [under] at h
    split at h
    next v hv => exact ih v (hp.2 v (hq.cell hv)) h
    next => cases h
  | readCells r hidden next ih =>
    simp only [under] at h
    split at h
    next vs hvs => exact ih vs (hp.2 vs (hq.cells hvs)) h
    next => cases h

/-- Answers that agree on the scope of a program give it the same result. -/
theorem under_congr (hq : q.AreResults) (hS : Answers.AgreeOn S q q') (hp : p.Within S post) :
    p.under q = p.under q' := by
  induction p with
  | done a => rfl
  | fail e => rfl
  | readCell r next ih =>
    simp only [under, ← hS.cell hp.1]
    split
    next v hv => exact ih v (hp.2 v (hq.cell hv))
    next => rfl
  | readCells r hidden next ih =>
    simp only [under, ← hS.cells hp.1]
    split
    next vs hvs => exact ih vs (hp.2 vs (hq.cells hvs))
    next => rfl

/-- A program that is never refused does not fail with a circular reference. -/
theorem under_ne_circularReference (hq : q.AreResults)
    (hcell : ∀ {r}, S.has r → q.cell r ≠ .error .circularReference)
    (hcells : ∀ {r hidden}, S.has r → q.cells r hidden ≠ .error .circularReference)
    (hp : p.Within S post) : p.under q ≠ .error .circularReference := by
  induction p with
  | done a => simp
  | fail e => exact fun h => hp (Except.error.inj h)
  | readCell r next ih =>
    simp only [under]
    split
    next v hv => exact ih v (hp.2 v (hq.cell hv))
    next e he =>
      intro h
      cases h
      exact hcell hp.1 he
  | readCells r hidden next ih =>
    simp only [under]
    split
    next vs hvs => exact ih vs (hp.2 vs (hq.cells hvs))
    next e he =>
      intro h
      cases h
      exact hcells hp.1 he

end Program.Within

/-! ## Arguments in a scope -/

/-- An argument lies in a scope: a written reference belongs to it, and anything computed stays
within it. -/
def Argument.Within (S : Scope) : Argument → Prop
  | .written r => S.has r
  | .computed p => p.Within S S.Allows

/-- An operand lies in a scope. -/
def Operand.Within (S : Scope) : Operand → Prop
  | .range r => S.has r
  | .value v => v.isResult = true

namespace Argument.Within

variable {a : Argument}

theorem result (h : a.Within S) : a.result.Within S S.Allows := by
  cases a with
  | written r => exact (Program.Within.cell h).mono fun _ => Scope.allows_of_isResult
  | computed p => exact h

theorem operand (h : a.Within S) : a.operand.Within S (Operand.Within S) := by
  cases a with
  | written r => exact h
  | computed p =>
    apply Program.Within.bind h
    intro v hv
    cases v <;> exact hv

theorem value (h : a.Within S) : a.value.Within S fun v => v.isResult = true := by
  apply Program.Within.bind h.operand
  intro o ho
  cases o with
  | range r => exact .cell ho
  | value v => exact ho

theorem number (h : a.Within S) : a.number.Within S fun _ => True := by
  apply Program.Within.bind h.value
  intro v _
  exact .ofExcept v.expectNumber_regular

theorem text (h : a.Within S) : a.text.Within S fun _ => True := by
  apply Program.Within.bind h.value
  intro v _
  trivial

theorem boolean (h : a.Within S) : a.boolean.Within S fun _ => True := by
  apply Program.Within.bind h.value
  intro v _
  exact .ofExcept v.toBoolean_regular

theorem moment (h : a.Within S) : a.moment.Within S fun _ => True := by
  apply Program.Within.bind h.value
  intro v _
  exact .ofExcept v.toMoment_regular

theorem reference (h : a.Within S) (function : String) :
    (a.reference function).Within S S.has := by
  apply Program.Within.bind h.operand
  intro o ho
  cases o with
  | range r => exact ho
  | value v => exact .fail (by simp)

theorem values (h : a.Within S) (hidden : Bool) :
    (a.values hidden).Within S fun vs => ∀ v ∈ vs, v.isResult = true := by
  apply Program.Within.bind h.operand
  intro o ho
  cases o with
  | range r => exact .cells ho hidden
  | value v =>
    intro w hw
    rw [List.mem_singleton.1 hw]
    exact Value.isResult_raw ho

end Argument.Within

section

variable {args : List Argument}

theorem argument_within (h : ∀ a ∈ args, a.Within S) (i : Nat) :
    (argument args i).Within S (Argument.Within S) := by
  unfold argument
  split
  next a ha => exact h a (List.mem_of_getElem? ha)
  next => exact .fail (by simp)

theorem optionalNumber_within (h : ∀ a ∈ args, a.Within S) (i : Nat) (default : Float) :
    (optionalNumber args i default).Within S fun _ => True := by
  unfold optionalNumber
  split
  next a ha => exact (h a (List.mem_of_getElem? ha)).number
  next => trivial

theorem numberAt_within (h : ∀ a ∈ args, a.Within S) (i : Nat) :
    (numberAt args i).Within S fun _ => True :=
  (argument_within h i).bind fun _ ha => ha.number

theorem textAt_within (h : ∀ a ∈ args, a.Within S) (i : Nat) :
    (textAt args i).Within S fun _ => True :=
  (argument_within h i).bind fun _ ha => ha.text

theorem valueAt_within (h : ∀ a ∈ args, a.Within S) (i : Nat) :
    (valueAt args i).Within S fun v => v.isResult = true :=
  (argument_within h i).bind fun _ ha => ha.value

end

end Evaluation

end Spreadsheet
