import Spreadsheet.Proofs.Evaluation.FunctionScope
import Spreadsheet.Proofs.Evaluation.Outcomes
import Spreadsheet.Proofs.Formula.Grammar

/-!
# Functions in bounds

A function that is built in, given a number of arguments that its signature
allows, is in bounds (`applyBuiltin_inBounds`).  The arguments may be computed to
anything.

Most functions only read arguments at fixed positions, which are there since the
least number of arguments says so.  What else they read takes an argument of its
own.

* `CHOOSE` reads an argument at a computed position, which it has compared with
  the number of arguments.
* `SUBTOTAL`, `SUMIF` and `SUMIFS` take a part of their arguments.
* The functions with criteria take arguments in pairs and compare the shapes of
  ranges with the first one.  They have checked that there are pairs at all.
* `SUMPRODUCT` reads the entries of lists at the places of the first one.  They
  have been found to be of one length.
* `FIND`, `SEARCH` and `SUBSTITUTE` cut a text where something was found.
-/

namespace Spreadsheet

open Spreadsheet.Evaluation
open Spreadsheet.Formula (Error Reference)

namespace Evaluation

/-! ## Operators -/

theorem applySign_inBounds (s : Formula.Sign) {a : Argument} (ha : a.InBounds) :
    (applySign s a).InBounds :=
  .next ha.value fun v => .ofExcept (signResult_regular s v)

theorem applyOperator_inBounds (op : Formula.Operator) {a b : Argument} (ha : a.InBounds)
    (hb : b.InBounds) : (applyOperator op a b).InBounds :=
  .next ha.value fun left => .next hb.value fun right =>
    .ofExcept (operatorResult_regular op left right)

end Evaluation

namespace Functions

variable {args : List Argument}

/-! ## Functions on numbers -/

theorem unary_inBounds (h : Given 1 args) (function : String) (f : Float → Float) :
    (unary function f args).InBounds :=
  .next (h.number 0) fun _ => .ofExcept (finite_regular _ _)

theorem atan2_inBounds (h : Given 2 args) : (atan2 args).InBounds := by
  refine .next (h.number 0) fun x => .next (h.number 1) fun y => ?_
  split
  · exact .fail (by simp)
  · exact .ofExcept (finite_regular _ _)

theorem log_inBounds (h : Given 1 args) : (log args).InBounds :=
  .next (h.number 0) fun _ => .next (h.optionalNumber 1 10.0) fun _ =>
    .ofExcept (finite_regular _ _)

theorem multiple_inBounds (h : Given 1 args) (function : String) (round : Float → Float) :
    (multiple function round args).InBounds := by
  refine .next (h.number 0) fun x => .next (h.optionalNumber 1 1.0) fun unit => ?_
  split
  · exact .done trivial
  · exact .ofExcept (finite_regular _ _)

theorem mod_inBounds (h : Given 2 args) : (mod args).InBounds := by
  refine .next (h.number 0) fun x => .next (h.number 1) fun y => ?_
  split
  · exact .fail (by simp)
  · exact .ofExcept (finite_regular _ _)

theorem power_inBounds (h : Given 2 args) : (power args).InBounds :=
  .next (h.number 0) fun _ => .next (h.number 1) fun _ => .ofExcept (finite_regular _ _)

theorem sign_inBounds (h : Given 1 args) : (sign args).InBounds :=
  .next (h.number 0) fun _ => .done trivial

theorem randBetween_inBounds (h : Given 2 args) (c : Context) : (randBetween c args).InBounds := by
  refine .next (h.number 0) fun bottom => .next (h.number 1) fun top => ?_
  dsimp only
  split
  · exact .fail (by simp)
  · exact .done trivial

theorem places_inBounds (h : Given 1 args) : (places args).InBounds :=
  .next (h.optionalNumber 1 0.0) fun _ => .done trivial

theorem rounded_inBounds (h : Given 1 args) (function : String) (mode : Decimal.Rounding) :
    (rounded function mode args).InBounds :=
  .next (h.number 0) fun _ => .next (places_inBounds h) fun _ =>
    .next (.ofExcept (finite_regular _ _)) fun _ => .done trivial

theorem trunc_inBounds (h : Given 1 args) : (trunc args).InBounds :=
  .next (h.number 0) fun _ => .next (places_inBounds h) fun _ => .ofExcept (finite_regular _ _)

theorem rate_inBounds (h : Given 3 args) : (rate args).InBounds := by
  refine .next (h.number 0) fun periods => .next (h.number 1) fun payment => ?_
  refine .next (h.number 2) fun present => .next (h.optionalNumber 3 0.0) fun future => ?_
  refine .next (h.optionalNumber 4 0.0) fun due => .next (h.optionalNumber 5 0.1) fun guess => ?_
  exact .next (.ofExcept (Value.annuity_rate_regular _ _)) fun _ => .done trivial

/-! ## Functions on texts -/

theorem left_inBounds (h : Given 1 args) : (left args).InBounds :=
  .next (h.text 0) fun _ => .next (h.optionalNumber 1 1.0) fun x =>
    .next (.ofExcept (countOf_regular _ x)) fun _ => .done trivial

theorem right_inBounds (h : Given 1 args) : (right args).InBounds :=
  .next (h.text 0) fun _ => .next (h.optionalNumber 1 1.0) fun x =>
    .next (.ofExcept (countOf_regular _ x)) fun _ => .done trivial

theorem mid_inBounds (h : Given 3 args) : (mid args).InBounds :=
  .next (h.text 0) fun _ => .next (h.number 1) fun x =>
    .next (.ofExcept (positionOf_regular _ x)) fun _ => .next (h.number 2) fun y =>
      .next (.ofExcept (countOf_regular _ y)) fun _ => .done trivial

theorem len_inBounds (h : Given 1 args) : (len args).InBounds :=
  .next (h.text 0) fun _ => .done trivial

/-- What a search of the rest of a text comes to must lie in the rest. -/
theorem foundFrom_inBounds (needle : String) (cs : List Char) (start : Nat)
    {search : List Char → Option Nat}
    (hsearch : ∀ {cs i}, search cs = some i → i ≤ cs.length) :
    (foundFrom needle cs start search).InBounds := by
  apply Program.Ends.bind (entriesFrom_inBounds (Nat.min_le_right start cs.length))
  rintro _ rfl
  split
  next i hi =>
    have hlength := hsearch hi
    rw [List.length_drop] at hlength
    have hmin := Nat.min_le_right start cs.length
    have hend : min start cs.length + i ≤ cs.length := by omega
    exact .next ((entriesBefore_inBounds hend).mono fun _ _ => trivial) fun _ => .done trivial
  next => exact .fail (by simp)

theorem find_inBounds (h : Given 2 args) : (find args).InBounds := by
  refine .next (h.text 0) fun needle => .next (h.text 1) fun s => ?_
  refine .next (h.optionalNumber 2 1.0) fun x => ?_
  refine .next (.ofExcept (positionOf_regular _ x)) fun start => ?_
  exact foundFrom_inBounds _ _ _ fun hi =>
    (Nat.le_add_right _ _).trans (Text.add_length_le_of_position? hi)

theorem search_inBounds (h : Given 2 args) : (search args).InBounds := by
  refine .next (h.text 0) fun needle => .next (h.text 1) fun s => ?_
  refine .next (h.optionalNumber 2 1.0) fun x => ?_
  refine .next (.ofExcept (positionOf_regular _ x)) fun start => ?_
  -- The pattern is generalized, or else it is computed.
  have hpattern := Value.searchPattern_regular needle
  generalize Value.searchPattern needle = found at hpattern
  exact .next (.ofExcept hpattern) fun _ => foundFrom_inBounds _ _ _ Text.Glob.le_length_of_find?

theorem replace_inBounds (h : Given 4 args) : (replace args).InBounds :=
  .next (h.text 0) fun _ => .next (h.number 1) fun x =>
    .next (.ofExcept (positionOf_regular _ x)) fun _ => .next (h.number 2) fun y =>
      .next (.ofExcept (countOf_regular _ y)) fun _ => .next (h.text 3) fun _ => .done trivial

/-- An occurrence lies within the text, so what is before and behind it is there. -/
theorem substituteNth_inBounds (old new : List Char) (n : Nat) (s : String) :
    (substituteNth old new n s).InBounds := by
  unfold substituteNth
  split
  next i hi =>
    have hend := Text.add_length_le_of_nthPosition? hi
    have hstart : i ≤ s.toList.length := (Nat.le_add_right _ _).trans hend
    refine .next ((entriesBefore_inBounds hstart).mono fun _ _ => trivial) fun before => ?_
    exact .next ((entriesFrom_inBounds hend).mono fun _ _ => trivial) fun _ => .done trivial
  next => exact .done trivial

theorem substitute_inBounds (h : Given 3 args) : (substitute args).InBounds := by
  refine .next (h.text 0) fun s => .next (h.text 1) fun old => .next (h.text 2) fun new => ?_
  dsimp only
  split
  · exact .done trivial
  · split
    next => exact .done trivial
    next a ha =>
      refine .next (h.each a (List.mem_of_getElem? ha)).number fun x => ?_
      exact .next (.ofExcept (positionOf_regular _ x)) fun _ => substituteNth_inBounds _ _ _ _

theorem rept_inBounds (h : Given 2 args) : (rept args).InBounds := by
  refine .next (h.text 0) fun s => .next (h.number 1) fun x => ?_
  refine .next (.ofExcept (countOf_regular _ x)) fun n => ?_
  by_cases hn : s.utf8ByteSize * n ≤ maxRepeated
  · rw [if_pos hn]
    exact .done trivial
  · rw [if_neg hn]
    exact .fail (by simp)

theorem mapText_inBounds (h : Given 1 args) (f : String → String) : (mapText f args).InBounds :=
  .next (h.text 0) fun _ => .done trivial

theorem concatenated_inBounds (h : ∀ a ∈ args, a.InBounds) : (concatenated args).InBounds := by
  induction args with
  | nil => exact .done trivial
  | cons a rest ih =>
    obtain ⟨ha, hrest⟩ := List.forall_mem_cons.1 h
    exact .next ha.text fun _ => .next (ih hrest) fun _ => .done trivial

theorem concatenate_inBounds (h : ∀ a ∈ args, a.InBounds) : (concatenate args).InBounds :=
  .next (concatenated_inBounds h) fun _ => .done trivial

theorem char_inBounds (h : Given 1 args) : (char args).InBounds := by
  refine .next (h.number 0) fun x => ?_
  dsimp only
  split
  · exact .fail (by simp)
  · split
    · exact .done trivial
    · exact .fail (by simp)

theorem code_inBounds (h : Given 1 args) : (code args).InBounds := by
  refine .next (h.text 0) fun s => ?_
  split
  · exact .done trivial
  · exact .fail (by simp)

theorem formatText_inBounds (h : Given 2 args) (c : Context) : (formatText c args).InBounds :=
  .next (h.value 0) fun _ => .next (h.text 1) fun _ => .done trivial

theorem valueOfText_inBounds (h : Given 1 args) : (valueOfText args).InBounds := by
  refine .next (h.value 0) fun v => ?_
  have hnumber : Regular (fun _ => True) (v.expectNumber.map Value.number) :=
    v.expectNumber_regular.map fun _ _ => trivial
  generalize v.raw = w
  cases w with
  | text s =>
    have hs := numericText_regular s
    dsimp only
    generalize numericText s = x at hs
    exact .ofExcept hs
  | _ => exact .ofExcept hnumber

theorem onlyText_inBounds (h : Given 1 args) : (onlyText args).InBounds := by
  refine .next (h.value 0) fun v => ?_
  split
  · exact .done trivial
  · exact .done trivial

theorem exact_inBounds (h : Given 2 args) : (exact args).InBounds :=
  .next (h.text 0) fun _ => .next (h.text 1) fun _ => .done trivial

/-! ## Functions on moments -/

section

variable {least : Nat} (h : Given least args)
include h

theorem momentAt_inBounds (i : Fin least) : (momentAt args i).InBounds :=
  (h.argument i).bind fun _ ha => ha.moment

theorem wholeAt_inBounds (i : Fin least) : (wholeAt args i).InBounds :=
  .next (h.number i) fun _ => .done trivial

end

theorem part_inBounds (h : Given 1 args) (f : Calendar.Moment → Int) : (part f args).InBounds :=
  .next (momentAt_inBounds h 0) fun _ => .done trivial

theorem weekday_inBounds (h : Given 1 args) : (weekday args).InBounds := by
  have rest (m : Calendar.Moment) (type : Int) :
      (do return .number (Float.ofNat (← .ofExcept (weekdayNumber m.date type))) :
        Program Value).InBounds :=
    .next (.ofExcept (weekdayNumber_regular m.date type)) fun _ => .done trivial
  refine .next (momentAt_inBounds h 0) fun m => ?_
  split
  next a ha => exact .next (h.each a (List.mem_of_getElem? ha)).number fun x => rest m _
  next => exact rest m 1

theorem timeOf_inBounds (h : Given 3 args) : (timeOf args).InBounds := by
  refine .next (wholeAt_inBounds h 0) fun hour => .next (wholeAt_inBounds h 1) fun minute => ?_
  refine .next (wholeAt_inBounds h 2) fun second => ?_
  split
  · exact .done trivial
  · exact .fail (by simp)

theorem dateOf_inBounds (h : Given 3 args) : (dateOf args).InBounds := by
  refine .next (wholeAt_inBounds h 0) fun year => .next (wholeAt_inBounds h 1) fun month => ?_
  refine .next (wholeAt_inBounds h 2) fun day => ?_
  split
  · exact .done trivial
  · exact .fail (by simp)

theorem dateDif_inBounds (h : Given 3 args) : (dateDif args).InBounds := by
  refine .next (momentAt_inBounds h 0) fun start => ?_
  refine .next (momentAt_inBounds h 1) fun finish => ?_
  refine .next (h.text 2) fun unit => ?_
  dsimp only
  split
  · exact .fail (by simp)
  · split
    · exact .done trivial
    · exact .fail (by simp)

/-! ## Functions on truth values -/

theorem branch_inBounds (h : Given 1 args) : (branch args).InBounds := by
  apply Program.Ends.bind (h.argument 0)
  intro a ha
  refine .next ha.boolean fun condition => ?_
  split
  next b hb => exact (h.each b (List.mem_of_getElem? hb)).result
  next => exact .done trivial

theorem negation_inBounds (h : Given 1 args) : (negation args).InBounds :=
  (h.argument 0).bind fun _ ha => .next ha.boolean fun _ => .done trivial

theorem truths_inBounds {a : Argument} (ha : a.InBounds) : (truths a).InBounds := by
  refine .next ha.operand fun o => ?_
  cases o with
  | range r => exact .next (.cells r true) fun _ => .ofExcept (mapM_toBoolean_regular _)
  | value v => exact .next (.ofExcept v.toBoolean_regular) fun _ => .done trivial

theorem occurs_inBounds (b : Bool) (h : ∀ a ∈ args, a.InBounds) : (occurs b args).InBounds := by
  induction args with
  | nil => exact .done trivial
  | cons a rest ih =>
    obtain ⟨ha, hrest⟩ := List.forall_mem_cons.1 h
    refine .next (truths_inBounds ha) fun bs => ?_
    split
    · exact .done trivial
    · exact ih hrest

theorem conjunction_inBounds (h : ∀ a ∈ args, a.InBounds) : (conjunction args).InBounds :=
  .next (occurs_inBounds false h) fun _ => .done trivial

theorem disjunction_inBounds (h : ∀ a ∈ args, a.InBounds) : (disjunction args).InBounds :=
  .next (occurs_inBounds true h) fun _ => .done trivial

/-! ## Functions on lists -/

theorem collect_inBounds (hidden : Bool) (h : ∀ a ∈ args, a.InBounds) :
    (collect hidden args).InBounds := by
  induction args with
  | nil => exact .done trivial
  | cons a rest ih =>
    obtain ⟨ha, hrest⟩ := List.forall_mem_cons.1 h
    exact .next (ha.values hidden) fun _ => .next (ih hrest) fun _ => .done trivial

theorem aggregate_inBounds (h : ∀ a ∈ args, a.InBounds) (kind : Value.Aggregate) :
    (aggregate kind args).InBounds :=
  .next (collect_inBounds true h) fun vs => .ofExcept (Value.aggregate_apply_regular kind vs)

theorem countBlank_inBounds (h : ∀ a ∈ args, a.InBounds) : (countBlank args).InBounds :=
  .next (collect_inBounds true h) fun _ => .done trivial

/-- There is one list for each argument. -/
theorem arrays_inBounds (h : ∀ a ∈ args, a.InBounds) :
    (arrays args).Ends Error.InBounds fun lists => lists.length = args.length := by
  induction args with
  | nil => exact .done rfl
  | cons a rest ih =>
    obtain ⟨ha, hrest⟩ := List.forall_mem_cons.1 h
    refine .next (ha.values true) fun vs => ?_
    apply Program.Ends.bind (ih hrest)
    exact fun lists hlists => .done (congrArg Nat.succ hlists)

theorem productAt_inBounds {i : Nat} {lists : List (Array Value)} (h : ∀ vs ∈ lists, i < vs.size)
    (product : Float) : (productAt i lists product).InBounds := by
  induction lists generalizing product with
  | nil => exact .done trivial
  | cons vs rest ih =>
    obtain ⟨hvs, hrest⟩ := List.forall_mem_cons.1 h
    unfold productAt
    rw [Array.getElem?_eq_getElem hvs]
    exact ih hrest _

theorem products_inBounds {lists : List (Array Value)} {places : List Nat}
    (h : ∀ i ∈ places, ∀ vs ∈ lists, i < vs.size) : (products lists places).InBounds := by
  induction places with
  | nil => exact .done trivial
  | cons i places ih =>
    obtain ⟨hi, hplaces⟩ := List.forall_mem_cons.1 h
    exact .next (productAt_inBounds hi 1.0) fun _ => .next (ih hplaces) fun _ => .done trivial

theorem sumProduct_inBounds (h : Given 1 args) : (sumProduct args).InBounds := by
  apply Program.Ends.bind (arrays_inBounds h.each)
  intro lists hlists
  cases lists with
  | nil =>
    have hle := h.le
    rw [← hlists] at hle
    exact absurd hle (Nat.not_succ_le_zero 0)
  | cons first rest =>
    dsimp only
    split
    next => exact .fail (by simp)
    next hequal =>
      -- All lists are as long as the first one, at whose places they are read.
      have hsize : ∀ i ∈ List.range first.length,
          ∀ vs ∈ (first :: rest).map List.toArray, i < vs.size := by
        intro i hi vs hvs
        obtain ⟨list, hlist, rfl⟩ := List.mem_map.1 hvs
        have hlength : list.length = first.length := by
          by_contra hne
          exact hequal (List.any_eq_true.2 ⟨list, hlist, decide_eq_true hne⟩)
        rw [List.size_toArray, hlength]
        exact List.mem_range.1 hi
      exact .next (products_inBounds hsize) fun _ => .done trivial

theorem rank_inBounds (h : Given 2 args) : (rank args).InBounds := by
  refine .next (h.number 0) fun x => ?_
  apply Program.Ends.bind (h.argument 1)
  intro a ha
  refine .next (ha.values true) fun vs => .next (h.optionalNumber 2 0.0) fun order => ?_
  split
  · exact .done trivial
  · exact .fail (by simp)

theorem subtotal_inBounds (h : Given 2 args) : (subtotal args).InBounds := by
  refine .next (h.number 0) fun x => ?_
  dsimp only
  split
  next => exact .fail (by simp)
  next kind hidden _ =>
    apply Program.Ends.bind (entriesFrom_inBounds (Nat.le_of_succ_le h.le))
    rintro _ rfl
    have hrest : ∀ a ∈ args.drop 1, a.InBounds :=
      fun a ha => h.each a (List.mem_of_mem_drop ha)
    refine .next (collect_inBounds hidden hrest) fun vs => ?_
    exact .ofExcept (Value.aggregate_apply_regular kind vs)

/-! ## Functions with criteria -/

theorem criterion_test_inBounds (c : Value.Criterion) (v : Value) : (c.test v).InBounds := by
  cases c with
  | blank => exact .done trivial
  | nonBlank => exact .done trivial
  | pattern pieces negate => exact .done trivial
  | compare op operand =>
    have hleft : (Argument.computed (.done v)).InBounds := trivial
    have hright : (Argument.computed (.done (.text operand))).InBounds := trivial
    exact .next (applyOperator_inBounds (.compare op) hleft hright) fun result =>
      .ofExcept result.toBoolean_regular

theorem narrow_inBounds (c : Value.Criterion) (entries : List (Bool × Value)) :
    (narrow c entries).InBounds := by
  induction entries with
  | nil => exact .done trivial
  | cons entry rest ih =>
    obtain ⟨selected, v⟩ := entry
    have more (flag : Bool) :
        (do return flag :: (← narrow c rest) : Program (List Bool)).InBounds :=
      .next ih fun _ => .done trivial
    cases selected with
    | false => exact more false
    | true => exact .next (criterion_test_inBounds c v) more

theorem select_inBounds (tests : List (Reference × Value.Criterion)) (flags : Option (List Bool)) :
    (select flags tests).InBounds := by
  induction tests generalizing flags with
  | nil =>
    simp only [select]
    exact .done trivial
  | cons t rest ih =>
    obtain ⟨r, c⟩ := t
    simp only [select]
    exact .next (.cells r true) fun _ => .next (narrow_inBounds c _) fun _ => ih _

/-- An even number of arguments comes in pairs. -/
theorem pairs_inBounds (function : String) (args : List Argument) (h : ∀ a ∈ args, a.InBounds)
    (heven : args.length % 2 = 0) :
    (pairs function args).Ends Error.InBounds fun tests => 2 * tests.length = args.length := by
  induction args using pairs.induct with
  | case1 => exact .done rfl
  | case2 a => cases heven
  | case3 range criterion rest ih =>
    obtain ⟨hrange, hcriterion, hrest⟩ :
        range.InBounds ∧ criterion.InBounds ∧ ∀ a ∈ rest, a.InBounds := by simpa using h
    simp only [pairs]
    refine .next (hrange.reference function) fun r => .next hcriterion.value fun v => ?_
    have hread := Value.criterion_read_regular v
    generalize Value.Criterion.read v = found at hread
    refine .next (.ofExcept hread) fun c => ?_
    rw [List.length_cons, List.length_cons, Nat.add_assoc, Nat.add_mod_right] at heven
    apply Program.Ends.bind (ih hrest heven)
    intro tests htests
    apply Program.Ends.done
    rw [List.length_cons, List.length_cons, List.length_cons]
    omega

/-- The number of arguments is checked before they are taken in pairs, so there is a first range. -/
theorem selection_inBounds (function : String) (h : ∀ a ∈ args, a.InBounds)
    (summed : Option Reference) : (selection function args summed).InBounds := by
  unfold selection
  split
  next => exact .fail (by simp)
  next hpaired =>
    simp only [Bool.or_eq_true, List.isEmpty_iff, decide_eq_true_eq, ne_eq, not_or,
      Decidable.not_not] at hpaired
    obtain ⟨hne, heven⟩ := hpaired
    apply Program.Ends.bind (pairs_inBounds function args h heven)
    intro tests htests
    cases tests with
    | nil => exact absurd (List.length_eq_zero_iff.1 htests.symm) hne
    | cons t tests =>
      refine .next (.ofExcept (checkShapes_regular _ _ _)) fun _ => ?_
      exact select_inBounds _ none

theorem countSelected_inBounds (h : ∀ a ∈ args, a.InBounds) (function : String) :
    (countSelected function args).InBounds :=
  .next (selection_inBounds function h none) fun _ => .done trivial

theorem sumSelected_inBounds (r : Reference) (flags : List Bool) :
    (sumSelected r flags).InBounds :=
  .next (.cells r true) fun _ => .done trivial

theorem sumIf_inBounds (h : Given 2 args) : (sumIf args).InBounds := by
  have rest (r : Reference) :
      (do sumSelected r (← selection "SUMIF" (← Program.entriesBefore args 2) (some r)) :
        Program Value).InBounds := by
    apply Program.Ends.bind (entriesBefore_inBounds h.le)
    rintro _ rfl
    have heach : ∀ a ∈ args.take 2, a.InBounds := fun a ha => h.each a (List.mem_of_mem_take ha)
    exact .next (selection_inBounds "SUMIF" heach (some r)) fun flags =>
      sumSelected_inBounds r flags
  unfold sumIf
  split
  next a ha => exact .next ((h.each a (List.mem_of_getElem? ha)).reference "SUMIF") rest
  next => exact (h.argument 0).bind fun _ ha => .next (ha.reference "SUMIF") rest

theorem sumIfs_inBounds (h : Given 3 args) : (sumIfs args).InBounds := by
  apply Program.Ends.bind (h.argument 0)
  intro a ha
  refine .next (ha.reference "SUMIFS") fun r => ?_
  apply Program.Ends.bind (entriesFrom_inBounds (Nat.le_trans (by decide) h.le))
  rintro _ rfl
  have heach : ∀ a ∈ args.drop 1, a.InBounds := fun a ha => h.each a (List.mem_of_mem_drop ha)
  exact .next (selection_inBounds "SUMIFS" heach (some r)) fun flags =>
    sumSelected_inBounds r flags

/-! ## Functions on ranges -/

theorem measure_inBounds (h : Given 1 args) (function : String) (f : Grid.Range → Nat) :
    (measure function f args).InBounds :=
  (h.argument 0).bind fun _ ha => .next (ha.reference function) fun _ => .done trivial

theorem indexOf_inBounds (h : ∀ a ∈ args, a.InBounds) (function : String) (f : Grid.Range → Nat)
    (caller : Option Nat) : (indexOf function f caller args).InBounds := by
  unfold indexOf
  split
  next a ha =>
    exact .next ((h a (List.mem_of_getElem? ha)).reference function) fun _ => .done trivial
  next =>
    cases caller with
    | some i => exact .done trivial
    | none => exact .fail (by simp)

theorem choose_inBounds (h : Given 2 args) : (choose args).InBounds := by
  refine .next (h.number 0) fun x => ?_
  dsimp only
  split
  next => exact .fail (by simp)
  next hindex =>
    have hlt : Decimal.toUnsigned64 (Decimal.truncate x) < args.length := by
      simp only [Bool.or_eq_true, decide_eq_true_eq, not_or, Nat.not_le] at hindex
      exact hindex.2
    have hall : Given args.length args := ⟨Nat.le_refl _, h.each⟩
    apply Program.Ends.bind (hall.argument ⟨_, hlt⟩)
    intro a ha
    refine .next ha.operand fun o => ?_
    cases o with
    | range r => exact .done trivial
    | value v => exact .done trivial

theorem index_inBounds (h : Given 2 args) : (index args).InBounds := by
  apply Program.Ends.bind (h.argument 0)
  intro a ha
  refine .next (ha.reference "INDEX") fun r => ?_
  refine .next (h.number 1) fun x => ?_
  refine .next (.ofExcept (indexWithin_regular _ x _)) fun row => ?_
  refine .next (h.optionalNumber 2 0.0) fun y => ?_
  exact .next (.ofExcept (indexWithin_regular _ y _)) fun _ => .done trivial

theorem tableLookup_inBounds (h : Given 3 args) (function : String) (axis : Axis) :
    (tableLookup function axis args).InBounds := by
  refine .next (h.value 0) fun sought => ?_
  apply Program.Ends.bind (h.argument 1)
  intro a ha
  refine .next (ha.reference function) fun table => ?_
  refine .next (h.number 2) fun x => ?_
  extract_lets i line rest
  -- The rest is the same whether the fourth argument is given or not.
  have hrest (approximate : Bool) : (rest approximate).InBounds := by
    dsimp only [rest]
    split
    next =>
      refine .next (.cells _ true) fun keys => ?_
      refine .next (.ofExcept (lookupPosition?_regular sought.raw approximate keys))
        fun position => ?_
      cases position with
      | none => exact .fail (by simp)
      | some position =>
        refine .next (.cells _ true) fun results => ?_
        split
        · exact .done trivial
        · exact .fail (by simp)
    next => exact .fail (by simp)
  split
  next b hb => exact .next (h.each b (List.mem_of_getElem? hb)).boolean hrest
  next => exact hrest true

theorem position_inBounds (h : Given 2 args) : (position args).InBounds := by
  refine .next (h.value 0) fun sought => ?_
  apply Program.Ends.bind (h.argument 1)
  intro a ha
  refine .next (ha.reference "MATCH") fun r => ?_
  refine .next (h.optionalNumber 2 1.0) fun x => .next (.cells r true) fun keys => ?_
  refine .next (.ofExcept (matchPosition?_regular _ _ _)) fun i => ?_
  cases i with
  | some i => exact .done trivial
  | none => exact .fail (by simp)

end Functions

namespace Evaluation

open Functions in
/-- A function that is built in is in bounds when its signature allows the number of arguments. -/
theorem applyBuiltin_inBounds (c : Context) {b : Formula.Builtin} {args : List Argument}
    (hcount : b.signature.Allows args.length) (heach : ∀ a ∈ args, a.InBounds) :
    (applyBuiltin c args b).InBounds := by
  have h : Given b.signature.least args := ⟨hcount.1, heach⟩
  cases b with
  | sum | average | max | min | var | varP | stdev | stdevP | count | countAll | product =>
    exact aggregate_inBounds heach _
  | countBlank => exact countBlank_inBounds heach
  | sumProduct => exact sumProduct_inBounds h
  | rank => exact rank_inBounds h
  | subtotal => exact subtotal_inBounds h
  | countIf | countIfs => exact countSelected_inBounds heach _
  | sumIf => exact sumIf_inBounds h
  | sumIfs => exact sumIfs_inBounds h
  | abs | acos | asin | atan | cos | sin | tan | exp | ln | log10 | sqrt | int =>
    exact unary_inBounds h _ _
  | atan2 => exact atan2_inBounds h
  | log => exact log_inBounds h
  | floor | ceiling => exact multiple_inBounds h _ _
  | mod => exact mod_inBounds h
  | power => exact power_inBounds h
  | sign => exact sign_inBounds h
  | pi | rand | isTrue | isFalse | now | today => exact .done trivial
  | randBetween => exact randBetween_inBounds h c
  | round | roundDown | roundUp => exact rounded_inBounds h _ _
  | trunc => exact trunc_inBounds h
  | conjunction => exact conjunction_inBounds heach
  | disjunction => exact disjunction_inBounds heach
  | branch => exact branch_inBounds h
  | negation => exact negation_inBounds h
  | left => exact left_inBounds h
  | right => exact right_inBounds h
  | mid => exact mid_inBounds h
  | len => exact len_inBounds h
  | find => exact find_inBounds h
  | search => exact search_inBounds h
  | replace => exact replace_inBounds h
  | substitute => exact substitute_inBounds h
  | rept => exact rept_inBounds h
  | upper | lower | proper | trim => exact mapText_inBounds h _
  | concatenate => exact concatenate_inBounds heach
  | char => exact char_inBounds h
  | code => exact code_inBounds h
  | formatText => exact formatText_inBounds h c
  | valueOfText => exact valueOfText_inBounds h
  | onlyText => exact onlyText_inBounds h
  | exact => exact exact_inBounds h
  | year | month | day | hour | minute | second => exact part_inBounds h _
  | weekday => exact weekday_inBounds h
  | timeOf => exact timeOf_inBounds h
  | dateOf => exact dateOf_inBounds h
  | dateDif => exact dateDif_inBounds h
  | row | column => exact indexOf_inBounds heach _ _ _
  | rows | columns => exact measure_inBounds h _ _
  | choose => exact choose_inBounds h
  | index => exact index_inBounds h
  | hLookup | vLookup => exact tableLookup_inBounds h _ _
  | position => exact position_inBounds h
  | rate => exact rate_inBounds h

-- Without the arguments that its signature asks for, a function is not in bounds.
example (c : Context) : ¬ (applyBuiltin c [] .power).InBounds := fun h => h rfl

end Evaluation

end Spreadsheet
