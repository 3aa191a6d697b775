import Spreadsheet.Evaluation.Evaluate
import Spreadsheet.Proofs.Evaluation.Scope

/-!
# The scope of a function

A function that is built in, given arguments within a scope, is within the scope
itself, and it gives a result or a reference of the scope (`applyBuiltin_within`).

Most functions compute their arguments one after the other and hand the values
to a computation that asks for nothing.  Such a function is within the scope
because its arguments are, and what is left to say of it is that the
computation is regular.  Three kinds of functions need more.

* `INDEX`, `HLOOKUP` and `VLOOKUP` ask for parts of a range, or give one.
* `CHOOSE` and `IF` give what an argument gives, which may be a reference.
* The functions on lists compute any number of arguments, and the ones with
  criteria test cell by cell.  These go by induction on the list.
-/

namespace Spreadsheet

open Spreadsheet.Evaluation
open Spreadsheet.Formula (Error Reference)

/-! ## Regular computations -/

namespace Value

theorem checkSize_regular (isOpen : Bool) (pieces : List Text.Piece) :
    Regular (fun _ => True) (checkSize isOpen pieces) := by
  unfold checkSize
  split <;> simp

theorem wholePattern_regular (s : String) : Regular (fun _ => True) (wholePattern s) := by
  apply Regular.bind (checkSize_regular false _)
  exact fun _ _ => .ok trivial

theorem searchPattern_regular (s : String) : Regular (fun _ => True) (searchPattern s) := by
  apply Regular.bind (wholePattern_regular s)
  intro pieces _
  split
  next report => exact .error nofun nofun
  next =>
    apply Regular.bind (checkSize_regular true _)
    exact fun _ _ => .ok trivial

theorem exactPosition?_regular (sought : Value) (keys : List Value) :
    Regular (fun _ => True) (exactPosition? sought keys) := by
  unfold exactPosition?
  split
  · split
    · exact (wholePattern_regular _).bind fun _ _ => .ok trivial
    · exact .ok trivial
  · exact .ok trivial

theorem criterion_read_regular (v : Value) : Regular (fun _ => True) (Criterion.read v) := by
  unfold Criterion.read
  dsimp only
  generalize (splitOperator v.asText).1 = op
  generalize (splitOperator v.asText).2 = operand
  split
  · cases op <;> simp
  · split
    · have pattern (negate : Bool) :
          Regular (fun _ => True) ((wholePattern operand).map (Criterion.pattern · negate)) :=
        (wholePattern_regular operand).map fun _ _ => trivial
      cases op with
      | equal => exact pattern false
      | notEqual => exact pattern true
      | _ => simp
    · exact .ok trivial

theorem variance_regular (xs : List Float) (sample : Bool) :
    Regular (fun _ => True) (variance xs sample) := by
  simp only [variance]
  split <;> simp

theorem momentOrNumber_isResult (wanted : Bool) (x : Float) :
    (momentOrNumber wanted x).isResult = true := by
  unfold momentOrNumber
  split
  · split <;> rfl
  · rfl

/-- An aggregate gives a number or a moment. -/
theorem aggregate_apply_regular (a : Aggregate) (vs : List Value) :
    Regular (fun v => v.isResult = true) (a.apply vs) := by
  cases a with
  | sum =>
    simp only [Aggregate.apply, regular_ok]
    exact momentOrNumber_isResult _ _
  | max =>
    simp only [Aggregate.apply, regular_ok]
    exact momentOrNumber_isResult _ _
  | min =>
    simp only [Aggregate.apply, regular_ok]
    exact momentOrNumber_isResult _ _
  | average =>
    simp only [Aggregate.apply]
    split
    · simp
    · exact .ok (momentOrNumber_isResult _ _)
  | count => exact .ok rfl
  | countAll => exact .ok rfl
  | product => exact .ok rfl
  | var => exact (variance_regular _ _).map fun _ _ => rfl
  | varP => exact (variance_regular _ _).map fun _ _ => rfl
  | stdev => exact (variance_regular _ _).map fun _ _ => rfl
  | stdevP => exact (variance_regular _ _).map fun _ _ => rfl

theorem annuity_rate_regular (a : Annuity) (guess : Float) :
    Regular (fun _ => True) (a.rate guess) := by
  unfold Annuity.rate
  split <;> simp

end Value

namespace Evaluation

theorem checked_regular (x : Float) : Regular (fun v => v.isResult = true) (checked x) := by
  unfold checked
  split
  · simp
  · exact .ok rfl

theorem signResult_regular (s : Formula.Sign) (v : Value) :
    Regular (fun v => v.isResult = true) (signResult s v) := by
  simp only [signResult]
  split
  · simp
  · cases s <;> exact .ok rfl

theorem operatorResult_regular (op : Formula.Operator) (left right : Value) :
    Regular (fun v => v.isResult = true) (operatorResult op left right) := by
  cases op with
  | join => exact .ok rfl
  | compare c => exact .ok rfl
  | _ => exact checked_regular _

end Evaluation

namespace Evaluation

/-! ## Operators -/

variable {S : Scope}

/-- A computation whose outcome is regular is within every scope. -/
theorem outcome_within {x : Except Error Value} (hx : Regular (fun v => v.isResult = true) x) :
    (Program.ofExcept x).Within S S.Allows := by
  apply Program.Within.mono (.ofExcept hx)
  exact fun _ => Scope.allows_of_isResult

theorem applySign_within (s : Formula.Sign) {a : Argument} (ha : a.Within S) :
    (applySign s a).Within S S.Allows := by
  apply Program.Within.bind ha.value
  intro v _
  exact outcome_within (signResult_regular s v)

theorem applyOperator_within (op : Formula.Operator) {a b : Argument} (ha : a.Within S)
    (hb : b.Within S) : (applyOperator op a b).Within S S.Allows := by
  apply Program.Within.bind ha.value
  intro left _
  apply Program.Within.bind hb.value
  intro right _
  exact outcome_within (operatorResult_regular op left right)

end Evaluation

namespace Functions

/-! ## Regular computations of functions -/

theorem finite_regular (function : String) (x : Float) :
    Regular (fun v => v.isResult = true) (finite function x) := by
  unfold finite
  split
  · exact .ok rfl
  · simp

theorem countOf_regular (function : String) (x : Float) :
    Regular (fun _ => True) (countOf function x) := by
  unfold countOf
  split <;> simp

theorem positionOf_regular (function : String) (x : Float) :
    Regular (fun _ => True) (positionOf function x) := by
  unfold positionOf
  split <;> simp

theorem numericText_regular (s : String) :
    Regular (fun v => v.isResult = true) (numericText s) := by
  simp only [numericText]
  split
  · exact .ok rfl
  · split
    · exact .ok rfl
    · simp

theorem weekdayNumber_regular (d : Calendar.Date) (type : Int) :
    Regular (fun _ => True) (weekdayNumber d type) := by
  unfold weekdayNumber
  split
  · exact .ok trivial
  · split
    · exact .ok trivial
    · split <;> simp

theorem indexWithin_regular (name : String) (x : Float) (span : Nat) :
    Regular (fun _ => True) (indexWithin name x span) := by
  simp only [indexWithin]
  split
  · simp
  · split <;> simp

theorem lookupPosition?_regular (sought : Value) (approximate : Bool) (keys : List Value) :
    Regular (fun _ => True) (lookupPosition? sought approximate keys) := by
  apply Regular.bind (Value.exactPosition?_regular sought keys)
  intro i _
  cases i <;> exact .ok trivial

theorem matchPosition?_regular (sought : Value) (type : Int) (keys : List Value) :
    Regular (fun _ => True) (matchPosition? sought type keys) := by
  unfold matchPosition?
  split
  · exact Value.exactPosition?_regular sought keys
  · split
    · exact .ok trivial
    · split <;> simp

theorem checkShapes_regular (function : String) (first : Reference) (rs : List Reference) :
    Regular (fun _ => True) (checkShapes function first rs) := by
  induction rs with
  | nil => exact .ok trivial
  | cons r rest ih =>
    unfold checkShapes
    split
    · simp
    · exact ih

end Functions

namespace Functions

variable {S : Scope} {args : List Argument}


section

variable (h : ∀ a ∈ args, a.Within S)
include h

/-! ## Functions on numbers -/

theorem unary_within (function : String) (f : Float → Float) :
    (unary function f args).Within S S.Allows := by
  apply Program.Within.bind (numberAt_within h 0)
  intro x _
  exact outcome_within (finite_regular _ _)

theorem atan2_within : (atan2 args).Within S S.Allows := by
  apply Program.Within.bind (numberAt_within h 0)
  intro x _
  apply Program.Within.bind (numberAt_within h 1)
  intro y _
  split
  · exact .fail (by simp)
  · exact outcome_within (finite_regular _ _)

theorem log_within : (log args).Within S S.Allows := by
  apply Program.Within.bind (numberAt_within h 0)
  intro x _
  apply Program.Within.bind (optionalNumber_within h 1 10.0)
  intro base _
  exact outcome_within (finite_regular _ _)

theorem multiple_within (function : String) (round : Float → Float) :
    (multiple function round args).Within S S.Allows := by
  apply Program.Within.bind (numberAt_within h 0)
  intro x _
  apply Program.Within.bind (optionalNumber_within h 1 1.0)
  intro unit _
  split
  · exact .done rfl
  · exact outcome_within (finite_regular _ _)

theorem mod_within : (mod args).Within S S.Allows := by
  apply Program.Within.bind (numberAt_within h 0)
  intro x _
  apply Program.Within.bind (numberAt_within h 1)
  intro y _
  split
  · exact .fail (by simp)
  · exact outcome_within (finite_regular _ _)

theorem power_within : (power args).Within S S.Allows := by
  apply Program.Within.bind (numberAt_within h 0)
  intro base _
  apply Program.Within.bind (numberAt_within h 1)
  intro exponent _
  exact outcome_within (finite_regular _ _)

theorem sign_within : (sign args).Within S S.Allows := by
  apply Program.Within.bind (numberAt_within h 0)
  intro x _
  exact .done rfl

theorem randBetween_within (c : Context) : (randBetween c args).Within S S.Allows := by
  apply Program.Within.bind (numberAt_within h 0)
  intro bottom _
  apply Program.Within.bind (numberAt_within h 1)
  intro top _
  dsimp only
  split
  · exact .fail (by simp)
  · exact .done rfl

theorem places_within : (places args).Within S fun _ => True := by
  apply Program.Within.bind (optionalNumber_within h 1 0.0)
  intro x _
  trivial

theorem rounded_within (function : String) (mode : Decimal.Rounding) :
    (rounded function mode args).Within S S.Allows := by
  apply Program.Within.bind (numberAt_within h 0)
  intro x _
  apply Program.Within.bind (places_within h)
  intro n _
  -- The outcome is a number, and a number may carry a format.
  unfold finite
  split
  · exact .done rfl
  · exact .fail (by simp)

theorem trunc_within : (trunc args).Within S S.Allows := by
  apply Program.Within.bind (numberAt_within h 0)
  intro x _
  apply Program.Within.bind (places_within h)
  intro n _
  exact outcome_within (finite_regular _ _)

theorem rate_within : (rate args).Within S S.Allows := by
  apply Program.Within.bind (numberAt_within h 0)
  intro periods _
  apply Program.Within.bind (numberAt_within h 1)
  intro payment _
  apply Program.Within.bind (numberAt_within h 2)
  intro present _
  apply Program.Within.bind (optionalNumber_within h 3 0.0)
  intro future _
  apply Program.Within.bind (optionalNumber_within h 4 0.0)
  intro due _
  apply Program.Within.bind (optionalNumber_within h 5 0.1)
  intro guess _
  apply Program.Within.bind (.ofExcept (Value.annuity_rate_regular _ _))
  intro x _
  exact .done rfl

/-! ## Functions on texts -/

theorem left_within : (left args).Within S S.Allows := by
  apply Program.Within.bind (textAt_within h 0)
  intro s _
  apply Program.Within.bind (optionalNumber_within h 1 1.0)
  intro x _
  apply Program.Within.bind (.ofExcept (countOf_regular _ x))
  intro n _
  exact .done rfl

theorem right_within : (right args).Within S S.Allows := by
  apply Program.Within.bind (textAt_within h 0)
  intro s _
  apply Program.Within.bind (optionalNumber_within h 1 1.0)
  intro x _
  apply Program.Within.bind (.ofExcept (countOf_regular _ x))
  intro n _
  exact .done rfl

theorem mid_within : (mid args).Within S S.Allows := by
  apply Program.Within.bind (textAt_within h 0)
  intro s _
  apply Program.Within.bind (numberAt_within h 1)
  intro x _
  apply Program.Within.bind (.ofExcept (positionOf_regular _ x))
  intro start _
  apply Program.Within.bind (numberAt_within h 2)
  intro y _
  apply Program.Within.bind (.ofExcept (countOf_regular _ y))
  intro n _
  exact .done rfl

theorem len_within : (len args).Within S S.Allows := by
  apply Program.Within.bind (textAt_within h 0)
  intro s _
  exact .done rfl

omit h in
theorem foundFrom_within (needle : String) (cs : List Char) (start : Nat)
    (search : List Char → Option Nat) : (foundFrom needle cs start search).Within S S.Allows := by
  apply Program.Within.bind (.entriesFrom cs _)
  intro rest _
  split
  · apply Program.Within.bind (.entriesBefore cs _)
    intro before _
    exact .done rfl
  · exact .fail (by simp)

theorem find_within : (find args).Within S S.Allows := by
  apply Program.Within.bind (textAt_within h 0)
  intro needle _
  apply Program.Within.bind (textAt_within h 1)
  intro s _
  apply Program.Within.bind (optionalNumber_within h 2 1.0)
  intro x _
  apply Program.Within.bind (.ofExcept (positionOf_regular _ x))
  intro start _
  exact foundFrom_within _ _ _ _

theorem search_within : (search args).Within S S.Allows := by
  apply Program.Within.bind (textAt_within h 0)
  intro needle _
  apply Program.Within.bind (textAt_within h 1)
  intro s _
  apply Program.Within.bind (optionalNumber_within h 2 1.0)
  intro x _
  apply Program.Within.bind (.ofExcept (positionOf_regular _ x))
  intro start _
  -- The pattern is generalized, or else it is computed.
  have hpattern := Value.searchPattern_regular needle
  generalize Value.searchPattern needle = found at hpattern
  apply Program.Within.bind (.ofExcept hpattern)
  intro pattern _
  exact foundFrom_within _ _ _ _

theorem replace_within : (replace args).Within S S.Allows := by
  apply Program.Within.bind (textAt_within h 0)
  intro s _
  apply Program.Within.bind (numberAt_within h 1)
  intro x _
  apply Program.Within.bind (.ofExcept (positionOf_regular _ x))
  intro start _
  apply Program.Within.bind (numberAt_within h 2)
  intro y _
  apply Program.Within.bind (.ofExcept (countOf_regular _ y))
  intro n _
  apply Program.Within.bind (textAt_within h 3)
  intro new _
  exact .done rfl

omit h in
theorem substituteNth_within (old new : List Char) (n : Nat) (s : String) :
    (substituteNth old new n s).Within S S.Allows := by
  unfold substituteNth
  split
  · apply Program.Within.bind (.entriesBefore _ _)
    intro before _
    apply Program.Within.bind (.entriesFrom _ _)
    intro behind _
    exact .done rfl
  · exact .done rfl

theorem substitute_within : (substitute args).Within S S.Allows := by
  apply Program.Within.bind (textAt_within h 0)
  intro s _
  apply Program.Within.bind (textAt_within h 1)
  intro old _
  apply Program.Within.bind (textAt_within h 2)
  intro new _
  dsimp only
  split
  · exact .done rfl
  · split
    next => exact .done rfl
    next a ha =>
      apply Program.Within.bind (h a (List.mem_of_getElem? ha)).number
      intro x _
      apply Program.Within.bind (.ofExcept (positionOf_regular _ x))
      intro n _
      exact substituteNth_within _ _ _ _

theorem rept_within : (rept args).Within S S.Allows := by
  apply Program.Within.bind (textAt_within h 0)
  intro s _
  apply Program.Within.bind (numberAt_within h 1)
  intro x _
  apply Program.Within.bind (.ofExcept (countOf_regular _ x))
  intro n _
  by_cases hn : s.utf8ByteSize * n ≤ maxRepeated
  · rw [if_pos hn]
    exact .done rfl
  · rw [if_neg hn]
    exact .fail (by simp)

theorem mapText_within (f : String → String) : (mapText f args).Within S S.Allows := by
  apply Program.Within.bind (textAt_within h 0)
  intro s _
  exact .done rfl

theorem char_within : (char args).Within S S.Allows := by
  apply Program.Within.bind (numberAt_within h 0)
  intro x _
  dsimp only
  split
  · exact .fail (by simp)
  · split
    · exact .done rfl
    · exact .fail (by simp)

theorem code_within : (code args).Within S S.Allows := by
  apply Program.Within.bind (textAt_within h 0)
  intro s _
  split
  · exact .done rfl
  · exact .fail (by simp)

theorem formatText_within (c : Context) : (formatText c args).Within S S.Allows := by
  apply Program.Within.bind (valueAt_within h 0)
  intro v _
  apply Program.Within.bind (textAt_within h 1)
  intro format _
  exact .done rfl

theorem valueOfText_within : (valueOfText args).Within S S.Allows := by
  apply Program.Within.bind (valueAt_within h 0)
  intro v _
  generalize v.raw = w
  cases w with
  | text s =>
    have hs := numericText_regular s
    dsimp only
    generalize numericText s = x at hs
    exact outcome_within hs
  | _ =>
    dsimp only
    exact outcome_within (v.expectNumber_regular.map fun _ _ => rfl)

theorem onlyText_within : (onlyText args).Within S S.Allows := by
  apply Program.Within.bind (valueAt_within h 0)
  intro v _
  split
  · exact .done rfl
  · exact .done rfl

theorem exact_within : (exact args).Within S S.Allows := by
  apply Program.Within.bind (textAt_within h 0)
  intro a _
  apply Program.Within.bind (textAt_within h 1)
  intro b _
  exact .done rfl

/-! ## Functions on moments -/

theorem momentAt_within (i : Nat) : (momentAt args i).Within S fun _ => True :=
  (argument_within h i).bind fun _ ha => ha.moment

theorem wholeAt_within (i : Nat) : (wholeAt args i).Within S fun _ => True :=
  (numberAt_within h i).bind fun _ _ => trivial

theorem part_within (f : Calendar.Moment → Int) : (part f args).Within S S.Allows := by
  apply Program.Within.bind (momentAt_within h 0)
  intro m _
  exact .done rfl

theorem weekday_within : (weekday args).Within S S.Allows := by
  have rest (m : Calendar.Moment) (type : Int) :
      (do return .number (Float.ofNat (← .ofExcept (weekdayNumber m.date type))) :
        Program Value).Within S S.Allows := by
    apply Program.Within.bind (.ofExcept (weekdayNumber_regular m.date type))
    intro n _
    exact .done rfl
  apply Program.Within.bind (momentAt_within h 0)
  intro m _
  split
  next a ha =>
    apply Program.Within.bind (h a (List.mem_of_getElem? ha)).number
    exact fun x _ => rest m (Decimal.toSigned64 x)
  next => exact rest m 1

theorem timeOf_within : (timeOf args).Within S S.Allows := by
  apply Program.Within.bind (wholeAt_within h 0)
  intro hour _
  apply Program.Within.bind (wholeAt_within h 1)
  intro minute _
  apply Program.Within.bind (wholeAt_within h 2)
  intro second _
  split
  · exact .done rfl
  · exact .fail (by simp)

theorem dateOf_within : (dateOf args).Within S S.Allows := by
  apply Program.Within.bind (wholeAt_within h 0)
  intro year _
  apply Program.Within.bind (wholeAt_within h 1)
  intro month _
  apply Program.Within.bind (wholeAt_within h 2)
  intro day _
  split
  · exact .done rfl
  · exact .fail (by simp)

theorem dateDif_within : (dateDif args).Within S S.Allows := by
  apply Program.Within.bind (momentAt_within h 0)
  intro start _
  apply Program.Within.bind (momentAt_within h 1)
  intro finish _
  apply Program.Within.bind (textAt_within h 2)
  intro unit _
  dsimp only
  split
  · exact .fail (by simp)
  · split
    · exact .done rfl
    · exact .fail (by simp)

/-! ## Functions on truth values -/

theorem branch_within : (branch args).Within S S.Allows := by
  apply Program.Within.bind (argument_within h 0)
  intro a ha
  apply Program.Within.bind ha.boolean
  intro condition _
  split
  next b hb => exact (h b (List.mem_of_getElem? hb)).result
  next => exact .done rfl

theorem negation_within : (negation args).Within S S.Allows := by
  apply Program.Within.bind (argument_within h 0)
  intro a ha
  apply Program.Within.bind ha.boolean
  intro b _
  exact .done rfl

end

theorem mapM_toBoolean_regular (vs : List Value) :
    Regular (fun _ => True) (vs.mapM Value.toBoolean) := by
  induction vs with
  | nil => exact .ok trivial
  | cons v vs ih =>
    rw [List.mapM_cons]
    apply Regular.bind v.toBoolean_regular
    intro b _
    apply Regular.bind ih
    intro bs _
    exact .ok trivial

theorem truths_within {a : Argument} (ha : a.Within S) : (truths a).Within S fun _ => True := by
  apply Program.Within.bind ha.operand
  intro o ho
  cases o with
  | range r =>
    apply Program.Within.bind (.cells ho true)
    intro vs _
    exact .ofExcept (mapM_toBoolean_regular _)
  | value v =>
    apply Program.Within.bind (.ofExcept v.toBoolean_regular)
    intro b _
    trivial

theorem occurs_within (b : Bool) (h : ∀ a ∈ args, a.Within S) :
    (occurs b args).Within S fun _ => True := by
  induction args with
  | nil => trivial
  | cons a rest ih =>
    apply Program.Within.bind (truths_within (h a List.mem_cons_self))
    intro bs _
    split
    · trivial
    · exact ih fun a' ha' => h a' (List.mem_cons_of_mem a ha')

theorem conjunction_within (h : ∀ a ∈ args, a.Within S) : (conjunction args).Within S S.Allows := by
  apply Program.Within.bind (occurs_within false h)
  intro b _
  exact .done rfl

theorem disjunction_within (h : ∀ a ∈ args, a.Within S) : (disjunction args).Within S S.Allows := by
  apply Program.Within.bind (occurs_within true h)
  intro b _
  exact .done rfl

/-! ## Functions on lists -/

theorem collect_within (hidden : Bool) (h : ∀ a ∈ args, a.Within S) :
    (collect hidden args).Within S fun _ => True := by
  induction args with
  | nil => trivial
  | cons a rest ih =>
    apply Program.Within.bind ((h a List.mem_cons_self).values hidden)
    intro vs _
    apply Program.Within.bind (ih fun a' ha' => h a' (List.mem_cons_of_mem a ha'))
    intro ws _
    trivial

theorem arrays_within (h : ∀ a ∈ args, a.Within S) : (arrays args).Within S fun _ => True := by
  induction args with
  | nil => trivial
  | cons a rest ih =>
    apply Program.Within.bind ((h a List.mem_cons_self).values true)
    intro vs _
    apply Program.Within.bind (ih fun a' ha' => h a' (List.mem_cons_of_mem a ha'))
    intro ws _
    trivial

theorem productAt_within (i : Nat) (lists : List (Array Value)) (product : Float) :
    (productAt i lists product).Within S fun _ => True := by
  induction lists generalizing product with
  | nil => trivial
  | cons vs rest ih =>
    unfold productAt
    split
    · exact ih _
    · exact .fail (by simp)

theorem products_within (lists : List (Array Value)) (places : List Nat) :
    (products lists places).Within S fun _ => True := by
  induction places with
  | nil => trivial
  | cons i places ih =>
    apply Program.Within.bind (productAt_within i lists 1.0)
    intro x _
    apply Program.Within.bind ih
    intro xs _
    trivial

theorem concatenated_within (h : ∀ a ∈ args, a.Within S) :
    (concatenated args).Within S fun _ => True := by
  induction args with
  | nil => trivial
  | cons a rest ih =>
    apply Program.Within.bind (h a List.mem_cons_self).text
    intro s _
    apply Program.Within.bind (ih fun a' ha' => h a' (List.mem_cons_of_mem a ha'))
    intro t _
    trivial

section

variable (h : ∀ a ∈ args, a.Within S)
include h

theorem concatenate_within : (concatenate args).Within S S.Allows := by
  apply Program.Within.bind (concatenated_within h)
  intro s _
  exact .done rfl

theorem aggregate_within (kind : Value.Aggregate) : (aggregate kind args).Within S S.Allows := by
  apply Program.Within.bind (collect_within true h)
  intro vs _
  exact outcome_within (Value.aggregate_apply_regular kind vs)

theorem countBlank_within : (countBlank args).Within S S.Allows := by
  apply Program.Within.bind (collect_within true h)
  intro vs _
  exact .done rfl

theorem sumProduct_within : (sumProduct args).Within S S.Allows := by
  apply Program.Within.bind (arrays_within h)
  intro lists _
  cases lists with
  | nil => exact .fail (by simp)
  | cons first rest =>
    dsimp only
    split
    · exact .fail (by simp)
    · apply Program.Within.bind (products_within _ _)
      intro xs _
      exact .done rfl

theorem rank_within : (rank args).Within S S.Allows := by
  apply Program.Within.bind (numberAt_within h 0)
  intro x _
  apply Program.Within.bind (argument_within h 1)
  intro a ha
  apply Program.Within.bind (ha.values true)
  intro vs _
  apply Program.Within.bind (optionalNumber_within h 2 0.0)
  intro order _
  split
  · exact .done rfl
  · exact .fail (by simp)

theorem subtotal_within : (subtotal args).Within S S.Allows := by
  apply Program.Within.bind (numberAt_within h 0)
  intro x _
  dsimp only
  split
  next => exact .fail (by simp)
  next kind hidden _ =>
    apply Program.Within.bind (.entriesFrom args 1)
    intro rest hrest
    apply Program.Within.bind (collect_within hidden fun a ha => h a (hrest a ha))
    intro vs _
    exact outcome_within (Value.aggregate_apply_regular kind vs)

end

/-! ## Functions with criteria -/

theorem criterion_test_within (c : Value.Criterion) {v : Value} (hv : v.isResult = true) :
    (c.test v).Within S fun _ => True := by
  cases c with
  | blank => trivial
  | nonBlank => trivial
  | pattern pieces negate => trivial
  | compare op operand =>
    have hleft : (Argument.computed (.done v)).Within S := Scope.allows_of_isResult hv
    have hright : (Argument.computed (.done (.text operand))).Within S := rfl
    apply Program.Within.bind (applyOperator_within (.compare op) hleft hright)
    intro result _
    exact .ofExcept result.toBoolean_regular

theorem narrow_within (c : Value.Criterion) (entries : List (Bool × Value))
    (h : ∀ entry ∈ entries, entry.2.isResult = true) :
    (narrow c entries).Within S fun _ => True := by
  induction entries with
  | nil => trivial
  | cons entry rest ih =>
    obtain ⟨selected, v⟩ := entry
    have more (flag : Bool) :
        (do return flag :: (← narrow c rest) : Program (List Bool)).Within S fun _ => True := by
      apply Program.Within.bind (ih fun entry hentry => h entry (List.mem_cons_of_mem _ hentry))
      intro flags _
      trivial
    cases selected with
    | false => exact more false
    | true =>
      apply Program.Within.bind (criterion_test_within c (h _ List.mem_cons_self))
      exact fun flag _ => more flag

theorem select_within (tests : List (Reference × Value.Criterion)) (h : ∀ t ∈ tests, S.has t.1)
    (flags : Option (List Bool)) : (select flags tests).Within S fun _ => True := by
  induction tests generalizing flags with
  | nil =>
    simp only [select]
    trivial
  | cons t rest ih =>
    obtain ⟨r, c⟩ := t
    simp only [select]
    apply Program.Within.bind (.cells (h _ List.mem_cons_self) true)
    intro vs hvs
    apply Program.Within.bind
      (narrow_within c _ fun entry hentry => hvs _ (List.of_mem_zip hentry).2)
    intro narrowed _
    exact ih (fun t ht => h t (List.mem_cons_of_mem _ ht)) _

/-- The tested ranges belong to the scope. -/
theorem pairs_within (function : String) (args : List Argument) (h : ∀ a ∈ args, a.Within S) :
    (pairs function args).Within S fun tests => ∀ t ∈ tests, S.has t.1 := by
  induction args using pairs.induct with
  | case1 => exact fun t ht => absurd ht List.not_mem_nil
  | case2 a => exact .fail (by simp)
  | case3 range criterion rest ih =>
    have hrange := h range (by simp)
    have hcriterion := h criterion (by simp)
    simp only [pairs]
    apply Program.Within.bind (hrange.reference function)
    intro r hr
    apply Program.Within.bind hcriterion.value
    intro v _
    have hread := Value.criterion_read_regular v
    generalize Value.Criterion.read v = found at hread
    apply Program.Within.bind (.ofExcept hread)
    intro c _
    apply Program.Within.bind (ih fun a ha => h a (by simp [ha]))
    intro tests htests t ht
    rcases List.mem_cons.1 ht with rfl | ht
    · exact hr
    · exact htests t ht

theorem selection_within (function : String) (h : ∀ a ∈ args, a.Within S)
    (summed : Option Reference) : (selection function args summed).Within S fun _ => True := by
  unfold selection
  split
  · exact .fail (by simp)
  · apply Program.Within.bind (pairs_within function args h)
    intro tests htests
    split
    · exact .fail (by simp)
    · apply Program.Within.bind (.ofExcept (checkShapes_regular _ _ _))
      intro _ _
      exact select_within tests htests none

theorem sumSelected_within {r : Reference} (hr : S.has r) (flags : List Bool) :
    (sumSelected r flags).Within S S.Allows := by
  apply Program.Within.bind (.cells hr true)
  intro vs _
  exact .done rfl

section

variable (h : ∀ a ∈ args, a.Within S)
include h

theorem countSelected_within (function : String) :
    (countSelected function args).Within S S.Allows := by
  apply Program.Within.bind (selection_within function h none)
  intro flags _
  exact .done rfl

theorem sumIf_within : (sumIf args).Within S S.Allows := by
  have rest (r : Reference) (hr : S.has r) :
      (do sumSelected r (← selection "SUMIF" (← Program.entriesBefore args 2) (some r)) :
        Program Value).Within S S.Allows := by
    apply Program.Within.bind (.entriesBefore args 2)
    intro pair hpair
    apply Program.Within.bind
      (selection_within "SUMIF" (fun a ha => h a (hpair a ha)) (some r))
    exact fun flags _ => sumSelected_within hr flags
  unfold sumIf
  split
  next a ha =>
    apply Program.Within.bind ((h a (List.mem_of_getElem? ha)).reference "SUMIF")
    exact rest
  next =>
    apply Program.Within.bind (argument_within h 0)
    intro a ha
    apply Program.Within.bind (ha.reference "SUMIF")
    exact rest

theorem sumIfs_within : (sumIfs args).Within S S.Allows := by
  apply Program.Within.bind (argument_within h 0)
  intro a ha
  apply Program.Within.bind (ha.reference "SUMIFS")
  intro r hr
  apply Program.Within.bind (.entriesFrom args 1)
  intro rest hrest
  apply Program.Within.bind
    (selection_within "SUMIFS" (fun a ha => h a (hrest a ha)) (some r))
  exact fun flags _ => sumSelected_within hr flags

/-! ## Functions on ranges -/

theorem measure_within (function : String) (f : Grid.Range → Nat) :
    (measure function f args).Within S S.Allows := by
  apply Program.Within.bind (argument_within h 0)
  intro a ha
  apply Program.Within.bind (ha.reference function)
  intro r _
  exact .done rfl

theorem indexOf_within (function : String) (f : Grid.Range → Nat) (caller : Option Nat) :
    (indexOf function f caller args).Within S S.Allows := by
  unfold indexOf
  split
  next a ha =>
    apply Program.Within.bind ((h a (List.mem_of_getElem? ha)).reference function)
    intro r _
    exact .done rfl
  next =>
    cases caller with
    | some i => exact .done rfl
    | none => exact .fail (by simp)

theorem choose_within : (choose args).Within S S.Allows := by
  apply Program.Within.bind (numberAt_within h 0)
  intro x _
  dsimp only
  split
  · exact .fail (by simp)
  · apply Program.Within.bind (argument_within h _)
    intro a ha
    apply Program.Within.bind ha.operand
    intro o ho
    cases o with
    | range r => exact .done ho
    | value v => exact .done (Scope.allows_of_isResult ho)

theorem index_within : (index args).Within S S.Allows := by
  apply Program.Within.bind (argument_within h 0)
  intro a ha
  apply Program.Within.bind (ha.reference "INDEX")
  intro r hr
  apply Program.Within.bind (numberAt_within h 1)
  intro x _
  apply Program.Within.bind (.ofExcept (indexWithin_regular _ x _))
  intro row _
  apply Program.Within.bind (optionalNumber_within h 2 0.0)
  intro y _
  apply Program.Within.bind (.ofExcept (indexWithin_regular _ y _))
  intro column _
  exact .done (Scope.withRange hr (narrowRange_within _ row column))

theorem tableLookup_within (function : String) (axis : Axis) :
    (tableLookup function axis args).Within S S.Allows := by
  apply Program.Within.bind (valueAt_within h 0)
  intro sought _
  apply Program.Within.bind (argument_within h 1)
  intro a ha
  apply Program.Within.bind (ha.reference function)
  intro table htable
  apply Program.Within.bind (numberAt_within h 2)
  intro x _
  extract_lets i line rest
  have hline {k : Nat} (hk : k < axis.depth table.range) :
      S.has (table.withRange (axis.line table.range k hk)) :=
    Scope.withRange htable (axis.line_within table.range k hk)
  -- The rest is the same whether the fourth argument is given or not.
  have hrest (approximate : Bool) : (rest approximate).Within S S.Allows := by
    dsimp only [rest]
    split
    next =>
      apply Program.Within.bind (.cells (hline _) true)
      intro keys _
      apply Program.Within.bind (.ofExcept (lookupPosition?_regular sought.raw approximate keys))
      intro position _
      cases position with
      | none => exact .fail (by simp)
      | some position =>
        apply Program.Within.bind (.cells (hline _) true)
        intro results hresults
        split
        next v hv =>
          exact .done (Scope.allows_of_isResult (hresults v (List.mem_of_getElem? hv)))
        next => exact .fail (by simp)
    next => exact .fail (by simp)
  split
  next b hb =>
    apply Program.Within.bind (h b (List.mem_of_getElem? hb)).boolean
    exact fun approximate _ => hrest approximate
  next => exact hrest true

theorem position_within : (position args).Within S S.Allows := by
  apply Program.Within.bind (valueAt_within h 0)
  intro sought _
  apply Program.Within.bind (argument_within h 1)
  intro a ha
  apply Program.Within.bind (ha.reference "MATCH")
  intro r hr
  apply Program.Within.bind (optionalNumber_within h 2 1.0)
  intro x _
  apply Program.Within.bind (.cells hr true)
  intro keys _
  apply Program.Within.bind (.ofExcept (matchPosition?_regular _ _ _))
  intro i _
  cases i with
  | some i => exact .done rfl
  | none => exact .fail (by simp)

end

end Functions

namespace Evaluation

variable {S : Scope}

open Functions in
/-- A function that is built in stays in the scope of its arguments. -/
theorem applyBuiltin_within (c : Context) {args : List Argument} (h : ∀ a ∈ args, a.Within S)
    (b : Formula.Builtin) : (applyBuiltin c args b).Within S S.Allows := by
  cases b with
  | sum | average | max | min | var | varP | stdev | stdevP | count | countAll | product =>
    exact aggregate_within h _
  | countBlank => exact countBlank_within h
  | sumProduct => exact sumProduct_within h
  | rank => exact rank_within h
  | subtotal => exact subtotal_within h
  | countIf | countIfs => exact countSelected_within h _
  | sumIf => exact sumIf_within h
  | sumIfs => exact sumIfs_within h
  | abs | acos | asin | atan | cos | sin | tan | exp | ln | log10 | sqrt | int =>
    exact unary_within h _ _
  | atan2 => exact atan2_within h
  | log => exact log_within h
  | floor | ceiling => exact multiple_within h _ _
  | mod => exact mod_within h
  | power => exact power_within h
  | sign => exact sign_within h
  | pi | rand | isTrue | isFalse | now | today => exact .done rfl
  | randBetween => exact randBetween_within h c
  | round | roundDown | roundUp => exact rounded_within h _ _
  | trunc => exact trunc_within h
  | conjunction => exact conjunction_within h
  | disjunction => exact disjunction_within h
  | branch => exact branch_within h
  | negation => exact negation_within h
  | left => exact left_within h
  | right => exact right_within h
  | mid => exact mid_within h
  | len => exact len_within h
  | find => exact find_within h
  | search => exact search_within h
  | replace => exact replace_within h
  | substitute => exact substitute_within h
  | rept => exact rept_within h
  | upper | lower | proper | trim => exact mapText_within h _
  | concatenate => exact concatenate_within h
  | char => exact char_within h
  | code => exact code_within h
  | formatText => exact formatText_within h c
  | valueOfText => exact valueOfText_within h
  | onlyText => exact onlyText_within h
  | exact => exact exact_within h
  | year | month | day | hour | minute | second => exact part_within h _
  | weekday => exact weekday_within h
  | timeOf => exact timeOf_within h
  | dateOf => exact dateOf_within h
  | dateDif => exact dateDif_within h
  | row | column => exact indexOf_within h _ _ _
  | rows | columns => exact measure_within h _ _
  | choose => exact choose_within h
  | index => exact index_within h
  | hLookup | vLookup => exact tableLookup_within h _ _
  | position => exact position_within h
  | rate => exact rate_within h

end Evaluation

end Spreadsheet
