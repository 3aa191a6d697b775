import Mathlib.Data.List.Forall2
import Spreadsheet.Evaluation.Evaluate
import Spreadsheet.Proofs.Evaluation.Answers

/-!
# Lists made of several arguments

Functions that reduce a list collect the values of one argument after the other
(`collect_under_append`).  So two ranges in the place of one give the same list
if their values, one after the other, are those of the one, and every function of
the list gives the same.  A function that does not mind the order of the list
gives the same if they are its values in any order.  Both are said of what a
function makes of the list (`collect_under_parts`).

`AND` and `OR` look for a truth value in one argument after the other.  They
stop at the first one that has it, which is of no consequence where all values
that are not blank have a truth value: then it only matters whether there is such
a value (`occurs_under_range`).
-/

namespace Spreadsheet.Functions

open Spreadsheet.Decimal (toSigned64 truncate)
open Spreadsheet.Evaluation (Answers Argument Context applyBuiltin numberAt)
open Spreadsheet.Evaluation.Program
open Spreadsheet.Formula (Builtin Error Reference)
open Spreadsheet.Value (Aggregate entryNumber? numbers)

section

variable {q : Answers} {hidden : Bool} {a a₁ a₂ : Argument} {r r₁ r₂ : Reference}
  {vs vs₁ vs₂ : List Value}

/-- A range in the place of an argument has the values of its cells. -/
theorem values_under_range (ha : a.operand.under q = .ok (.range r)) (hidden : Bool) :
    (a.values hidden).under q = q.cells r hidden := by
  rw [Argument.values, bind_eq, under_bind_of_ok ha]
  exact under_cells q r hidden

/-! ## Collecting -/

theorem collect_under_cons (a : Argument) (rest : List Argument) :
    (collect hidden (a :: rest)).under q =
      (a.values hidden).under q >>= fun vs =>
        ((collect hidden rest).under q).map (vs ++ ·) := by
  rw [collect, bind_eq, under_bind]
  refine congrArg _ (funext fun vs => ?_)
  rw [bind_eq, under_bind]
  cases (collect hidden rest).under q <;> rfl

/-- The values of some arguments stand before those of the arguments that follow them. -/
theorem collect_under_append (args rest : List Argument) :
    (collect hidden (args ++ rest)).under q =
      (collect hidden args).under q >>= fun vs =>
        ((collect hidden rest).under q).map (vs ++ ·) := by
  induction args with
  | nil =>
    change (collect hidden rest).under q = ((collect hidden rest).under q).map ([] ++ ·)
    cases (collect hidden rest).under q <;> rfl
  | cons a args ih =>
    rw [List.cons_append, collect_under_cons, collect_under_cons, ih]
    cases (a.values hidden).under q with
    | error e => rfl
    | ok vs =>
      cases (collect hidden args).under q with
      | error e => rfl
      | ok ws =>
        cases (collect hidden rest).under q with
        | error e => rfl
        | ok us =>
          refine congrArg Except.ok ?_
          exact (List.append_assoc vs ws us).symm

/-- What is made of a list is the same with two ranges in the place of one, if it is the same with
their values in the place of its values. -/
theorem collect_under_parts {β : Type} {F : List Value → Except Error β}
    (ha : a.operand.under q = .ok (.range r)) (ha₁ : a₁.operand.under q = .ok (.range r₁))
    (ha₂ : a₂.operand.under q = .ok (.range r₂)) (hcells : q.cells r hidden = .ok vs)
    (hcells₁ : q.cells r₁ hidden = .ok vs₁) (hcells₂ : q.cells r₂ hidden = .ok vs₂)
    (hF : ∀ before after, F (before ++ (vs₁ ++ vs₂ ++ after)) = F (before ++ (vs ++ after)))
    (before after : List Argument) :
    ((collect hidden (before ++ a₁ :: a₂ :: after)).under q >>= F) =
      (collect hidden (before ++ a :: after)).under q >>= F := by
  rw [collect_under_append, collect_under_append, collect_under_cons, collect_under_cons,
    collect_under_cons, values_under_range ha, values_under_range ha₁, values_under_range ha₂,
    hcells, hcells₁, hcells₂]
  cases (collect hidden before).under q with
  | error e => rfl
  | ok ws =>
    cases (collect hidden after).under q with
    | error e => rfl
    | ok us =>
      have := hF ws us
      rw [List.append_assoc vs₁] at this
      exact this

/-- Where the values of every argument are known, they are collected in the order of the
arguments. -/
theorem collect_under_of_forall {β : Type} {args : List Argument} {ps : List β}
    {values : β → List Value}
    (h : List.Forall₂ (fun a p => (a.values hidden).under q = .ok (values p)) args ps) :
    (collect hidden args).under q = .ok (ps.flatMap values) := by
  induction h with
  | nil => rfl
  | cons ha _ ih =>
    rw [collect_under_cons, ha, ih, List.flatMap_cons]
    rfl

/-! ## Functions of lists -/

/-- The functions that reduce the list of all values of their arguments. -/
def reducing : List Builtin :=
  [.sum, .average, .min, .max, .var, .varP, .stdev, .stdevP, .count, .countAll, .countBlank,
    .product]

/-- Those of them that only count. -/
def counting : List Builtin := [.count, .countAll, .countBlank]

/-- What a function makes of the list of all values of its arguments. -/
def MakesOfList (b : Builtin) (F : List Value → Except Error Value) : Prop :=
  ∀ (q : Answers) (c : Context) (args : List Argument),
    (applyBuiltin c args b).under q = (collect true args).under q >>= F

theorem makesOfList_apply {b : Builtin} {kind : Aggregate}
    (hb : ∀ c args, applyBuiltin c args b = aggregate kind args) : MakesOfList b kind.apply := by
  intro q c args
  simp only [hb, aggregate, bind_eq, under_bind, under_ofExcept]

theorem makesOfList_countBlank :
    MakesOfList .countBlank fun vs => .ok (.number (Float.ofNat (vs.countP Value.isBlank))) := by
  intro q c args
  simp only [applyBuiltin, countBlank, bind_eq, under_bind, pure_eq, under_done]

theorem exists_makesOfList {b : Builtin} (hb : b ∈ reducing) : ∃ F, MakesOfList b F := by
  have of (kind : Aggregate) (hb : ∀ c args, applyBuiltin c args b = aggregate kind args) :
      ∃ F, MakesOfList b F := ⟨_, makesOfList_apply hb⟩
  simp only [reducing, List.mem_cons, List.not_mem_nil, or_false] at hb
  rcases hb with rfl | rfl | rfl | rfl | rfl | rfl | rfl | rfl | rfl | rfl | rfl | rfl
  · exact of .sum fun _ _ => rfl
  · exact of .average fun _ _ => rfl
  · exact of .min fun _ _ => rfl
  · exact of .max fun _ _ => rfl
  · exact of .var fun _ _ => rfl
  · exact of .varP fun _ _ => rfl
  · exact of .stdev fun _ _ => rfl
  · exact of .stdevP fun _ _ => rfl
  · exact of .count fun _ _ => rfl
  · exact of .countAll fun _ _ => rfl
  · exact ⟨_, makesOfList_countBlank⟩
  · exact of .product fun _ _ => rfl

/-- A function that only counts does not mind the order of the list. -/
theorem exists_makesOfList_perm {b : Builtin} (hb : b ∈ counting) :
    ∃ F, MakesOfList b F ∧ ∀ {vs ws : List Value}, vs.Perm ws → F vs = F ws := by
  simp only [counting, List.mem_cons, List.not_mem_nil, or_false] at hb
  obtain rfl | rfl | rfl := hb
  · refine ⟨Aggregate.count.apply, makesOfList_apply fun _ _ => rfl, fun hperm => ?_⟩
    have hlength := (hperm.filterMap entryNumber?).length_eq
    simp only [Aggregate.apply, numbers, hlength]
  · refine ⟨Aggregate.countAll.apply, makesOfList_apply fun _ _ => rfl, fun hperm => ?_⟩
    simp only [Aggregate.apply, hperm.countP_eq]
  · refine ⟨_, makesOfList_countBlank, fun hperm => ?_⟩
    simp only [hperm.countP_eq]

/-- `SUBTOTAL` computes the code first, and an aggregate that it stands for is one of the values
behind it. -/
theorem subtotal_under (code : Argument) (args : List Argument) :
    (subtotal (code :: args)).under q =
      code.number.under q >>= fun x =>
        match Aggregate.ofCode? (toSigned64 (truncate x)) with
        | none => .error (.argument (.subtotalCode (toSigned64 (truncate x))))
        | some (kind, hidden) => (collect hidden args).under q >>= kind.apply := by
  have hfirst : numberAt (code :: args) 0 = code.number := rfl
  rw [subtotal, hfirst, bind_eq, under_bind]
  refine congrArg _ (funext fun x => ?_)
  dsimp only
  cases Aggregate.ofCode? (toSigned64 (truncate x)) with
  | none => rfl
  | some choice =>
    obtain ⟨kind, hidden⟩ := choice
    have hrest : entriesFrom (code :: args) 1 = .done args :=
      if_pos (Nat.succ_le_succ (Nat.zero_le _))
    simp only [hrest, bind_eq, done_bind, under_bind, under_ofExcept]

/-! ## Truth values -/

/-- Whether a value is not blank and has a truth value. -/
def isTruth (b : Bool) (v : Value) : Bool := !v.isBlank && v.toBoolean.toOption == some b

/-- The values of a list are blank or have truth values. -/
def AllBoolean (vs : List Value) : Prop :=
  ∀ v ∈ vs, v.isBlank = false → ∃ b, v.toBoolean = .ok b

theorem exists_mapM_toBoolean (hvs : AllBoolean vs) :
    ∃ bs, (vs.filter fun v => !v.isBlank).mapM Value.toBoolean = .ok bs ∧
      ∀ b, bs.contains b = vs.any (isTruth b) := by
  induction vs with
  | nil => exact ⟨[], rfl, fun _ => rfl⟩
  | cons v vs ih =>
    obtain ⟨hv, hrest⟩ := List.forall_mem_cons.1 hvs
    obtain ⟨bs, hbs, hcontains⟩ := ih hrest
    cases hblank : v.isBlank with
    | true =>
      refine ⟨bs, by rw [List.filter_cons_of_neg (by simp [hblank]), hbs], fun b => ?_⟩
      rw [hcontains, List.any_cons, isTruth, hblank]
      rfl
    | false =>
      obtain ⟨b', hb'⟩ := hv hblank
      refine ⟨b' :: bs, ?_, fun b => ?_⟩
      · rw [List.filter_cons_of_pos (by simp [hblank]), List.mapM_cons, hb', hbs]
        rfl
      · rw [List.contains_cons, hcontains, List.any_cons, isTruth, hblank, hb']
        cases b <;> cases b' <;> rfl

/-- In a range of values that are blank or have truth values, one of these is found if a value has
it.  Otherwise the arguments that follow are looked at. -/
theorem occurs_under_range (b : Bool) (ha : a.operand.under q = .ok (.range r))
    (hcells : q.cells r true = .ok vs) (hvs : AllBoolean vs) (rest : List Argument) :
    (occurs b (a :: rest)).under q =
      if vs.any (isTruth b) then .ok true else (occurs b rest).under q := by
  obtain ⟨bs, hbs, hcontains⟩ := exists_mapM_toBoolean hvs
  have htruths : (truths a).under q = .ok bs := by
    rw [truths, bind_eq, under_bind_of_ok ha]
    simp only [bind_eq, under_bind, under_cells, hcells, ok_bind, under_ofExcept, hbs]
  rw [occurs, bind_eq, under_bind_of_ok htruths, hcontains]
  cases vs.any (isTruth b) <;> rfl

theorem occurs_under_append (b : Bool) (args rest : List Argument) :
    (occurs b (args ++ rest)).under q =
      (occurs b args).under q >>= fun found =>
        if found then .ok true else (occurs b rest).under q := by
  induction args with
  | nil => rfl
  | cons a args ih =>
    simp only [List.cons_append, occurs, bind_eq, under_bind]
    cases (truths a).under q with
    | error e => rfl
    | ok bs =>
      simp only [ok_bind]
      cases bs.contains b with
      | true => rfl
      | false => exact ih

/-- A truth value is found in two ranges just when it is in one with the same values in any
order. -/
theorem occurs_under_parts (b : Bool) (ha : a.operand.under q = .ok (.range r))
    (ha₁ : a₁.operand.under q = .ok (.range r₁)) (ha₂ : a₂.operand.under q = .ok (.range r₂))
    (hcells : q.cells r true = .ok vs) (hcells₁ : q.cells r₁ true = .ok vs₁)
    (hcells₂ : q.cells r₂ true = .ok vs₂) (hperm : (vs₁ ++ vs₂).Perm vs) (hvs : AllBoolean vs)
    (before after : List Argument) :
    (occurs b (before ++ a₁ :: a₂ :: after)).under q =
      (occurs b (before ++ a :: after)).under q := by
  have hvs₁ : AllBoolean vs₁ := fun v hv =>
    hvs v (hperm.mem_iff.1 (List.mem_append_left _ hv))
  have hvs₂ : AllBoolean vs₂ := fun v hv =>
    hvs v (hperm.mem_iff.1 (List.mem_append_right _ hv))
  rw [occurs_under_append, occurs_under_append, occurs_under_range b ha hcells hvs,
    occurs_under_range b ha₁ hcells₁ hvs₁, occurs_under_range b ha₂ hcells₂ hvs₂, ← hperm.any_eq,
    List.any_append]
  cases vs₁.any (isTruth b) <;> rfl

end

end Spreadsheet.Functions
