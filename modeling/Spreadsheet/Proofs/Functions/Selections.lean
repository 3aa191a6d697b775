import Spreadsheet.Proofs.Functions.Criteria

/-!
# Selections by several criteria

Ranges and the values of their criteria are arguments in turn (`Paired`).  They
are read in this order (`pairs_under`), and then the shapes are compared with
that of the first range (`checkShapes_eq_ok`, `checkShapes_eq_error`).

A selection starts with the first range, and each range narrows it further.  The
places it has excluded are not tested any more, which makes no difference: once
the ranges so far have been read, a place is selected when it satisfies all of
their criteria (`select_some_under`).  So a selection is the conjunction of its
tests, place by place (`select_none_under`).
-/

namespace Spreadsheet.Functions

open Spreadsheet.Evaluation (Answers Argument)
open Spreadsheet.Evaluation.Program
open Spreadsheet.Formula (Error Reference)
open Spreadsheet.Value (Criterion)

/-! ## Arguments in pairs -/

/-- Entries of two kinds in turn, of which each gives its part of a pair. -/
inductive Paired {α β γ : Type} (left : α → β → Prop) (right : α → γ → Prop) :
    List α → List (β × γ) → Prop where
  /-- No entries make no pairs. -/
  | nil : Paired left right [] []
  /-- Two entries make a pair. -/
  | cons {a b : α} {x : β} {y : γ} {l : List α} {ps : List (β × γ)} (hleft : left a x)
      (hright : right b y) (h : Paired left right l ps) :
    Paired left right (a :: b :: l) ((x, y) :: ps)

namespace Paired

variable {α α' β γ : Type} {left : α → β → Prop} {right : α → γ → Prop} {l : List α}
  {ps : List (β × γ)}

theorem length_eq (h : Paired left right l ps) : l.length = 2 * ps.length := by
  induction h with
  | nil => rfl
  | cons _ _ _ ih =>
    simp only [List.length_cons, ih]
    omega

theorem map {left' : α' → β → Prop} {right' : α' → γ → Prop} {f : α → α'}
    (hleft : ∀ {a x}, left a x → left' (f a) x) (hright : ∀ {a y}, right a y → right' (f a) y)
    (h : Paired left right l ps) : Paired left' right' (l.map f) ps := by
  induction h with
  | nil => exact .nil
  | cons ha hb _ ih => exact .cons (hleft ha) (hright hb) ih

end Paired

section

variable {q : Answers} {function : String} {arguments : List Argument}

/-- An argument gives a range to a function. -/
def GivesRange (q : Answers) (function : String) (a : Argument) (r : Reference) : Prop :=
  (a.reference function).under q = .ok r

/-- An argument gives a value. -/
def GivesValue (q : Answers) (a : Argument) (v : Value) : Prop := a.value.under q = .ok v

/-- Reads the criteria beside ranges. -/
def readCriteria (ps : List (Reference × Value)) : Except Error (List (Reference × Criterion)) :=
  ps.mapM fun p => (Criterion.read p.2).map fun c => (p.1, c)

theorem readCriteria_cons (r : Reference) (v : Value) (ps : List (Reference × Value)) :
    readCriteria ((r, v) :: ps) =
      Criterion.read v >>= fun c => (readCriteria ps).map fun tests => (r, c) :: tests := by
  rw [readCriteria, List.mapM_cons, ← readCriteria]
  cases Criterion.read v with
  | error e => rfl
  | ok c => cases readCriteria ps <;> rfl

/-- A pair and the test that it is read as. -/
def ReadAs (p : Reference × Value) (test : Reference × Criterion) : Prop :=
  test.1 = p.1 ∧ Criterion.read p.2 = .ok test.2

/-- Values that are criteria make tests with their ranges. -/
theorem exists_readAs {ps : List (Reference × Value)}
    (h : ∀ p ∈ ps, ∃ c, Criterion.read p.2 = .ok c) : ∃ tests, List.Forall₂ ReadAs ps tests := by
  induction ps with
  | nil => exact ⟨[], .nil⟩
  | cons p ps ih =>
    obtain ⟨⟨c, hc⟩, hps⟩ := List.forall_mem_cons.1 h
    obtain ⟨tests, htests⟩ := ih hps
    exact ⟨(p.1, c) :: tests, .cons ⟨rfl, hc⟩ htests⟩

/-- Criteria are read when every one of them is. -/
theorem readCriteria_eq_ok {ps : List (Reference × Value)} {tests : List (Reference × Criterion)}
    (h : List.Forall₂ ReadAs ps tests) : readCriteria ps = .ok tests := by
  induction h with
  | nil => rfl
  | @cons p test ps tests hp _ ih =>
    obtain ⟨r, v⟩ := p
    obtain ⟨r', c⟩ := test
    obtain ⟨rfl, hread⟩ : r' = r ∧ Criterion.read v = .ok c := hp
    rw [readCriteria_cons, hread, ih]
    rfl

/-- The tests are of the ranges that the criteria stand beside. -/
theorem ranges_of_readCriteria {ps : List (Reference × Value)}
    {tests : List (Reference × Criterion)} (h : readCriteria ps = .ok tests) :
    tests.map (·.1) = ps.map (·.1) := by
  induction ps generalizing tests with
  | nil =>
    cases h
    rfl
  | cons p ps ih =>
    obtain ⟨r, v⟩ := p
    rw [readCriteria_cons] at h
    obtain ⟨c, -, h⟩ := bind_eq_ok.1 h
    cases hrest : readCriteria ps with
    | error e =>
      rw [hrest] at h
      cases h
    | ok rest =>
      rw [hrest] at h
      cases h
      rw [List.map_cons, List.map_cons, ih hrest]

/-- The pairs are read one after the other, and the ranges are found before the criteria are
refused. -/
theorem pairs_under {ps : List (Reference × Value)}
    (h : Paired (GivesRange q function) (GivesValue q) arguments ps) :
    (pairs function arguments).under q = readCriteria ps := by
  induction h with
  | nil => rfl
  | @cons a b r v arguments ps ha hb _ ih =>
    rw [pairs, bind_eq, under_bind_of_ok ha, bind_eq, under_bind_of_ok hb, bind_eq, under_bind,
      under_ofExcept, readCriteria_cons]
    refine congrArg _ (funext fun c => ?_)
    rw [bind_eq, under_bind, ih]
    cases readCriteria ps <;> rfl

end

/-! ## Shapes -/

/-- Ranges have as many rows and columns as each other. -/
def SameShape (r r' : Reference) : Prop :=
  r.range.rows = r'.range.rows ∧ r.range.columns = r'.range.columns

/-- Ranges of so many rows and columns have the same shape. -/
theorem sameShape_of_forall {rs : List Reference} {rows columns : Nat}
    (h : ∀ r ∈ rs, r.range.rows = rows ∧ r.range.columns = columns) :
    ∀ r ∈ rs, ∀ r' ∈ rs, SameShape r r' := fun r hr r' hr' =>
  ⟨(h r hr).1.trans (h r' hr').1.symm, (h r hr).2.trans (h r' hr').2.symm⟩

section

variable {function : String} {first r : Reference} {rs : List Reference}

theorem checkShapes_cons_same (hr : SameShape r first) :
    checkShapes function first (r :: rs) = checkShapes function first rs :=
  if_neg (by simp [hr.1, hr.2])

theorem checkShapes_cons_not_same (hr : ¬ SameShape r first) :
    checkShapes function first (r :: rs) =
      .error (.argument (.unequalRanges function first.text r.text)) :=
  if_pos (by simpa [SameShape, Classical.or_iff_not_imp_left] using hr)

/-- Ranges of the same shape pass. -/
theorem checkShapes_eq_ok (h : ∀ r ∈ rs, SameShape r first) :
    checkShapes function first rs = .ok () := by
  induction rs with
  | nil => rfl
  | cons r rs ih =>
    obtain ⟨hr, hrs⟩ := List.forall_mem_cons.1 h
    rw [checkShapes_cons_same hr, ih hrs]

/-- Where some range has another shape than the first one, such a range is reported. -/
theorem checkShapes_eq_error (function : String) (h : ∃ r ∈ rs, ¬ SameShape r first) :
    ∃ r ∈ rs, ¬ SameShape r first ∧ checkShapes function first rs =
      .error (.argument (.unequalRanges function first.text r.text)) := by
  induction rs with
  | nil => exact absurd h (by simp)
  | cons r rs ih =>
    by_cases hr : SameShape r first
    · have hrest : ∃ r ∈ rs, ¬ SameShape r first := by simpa [hr] using h
      obtain ⟨r', hmem, hr', herror⟩ := ih hrest
      exact ⟨r', List.mem_cons_of_mem _ hmem, hr', (checkShapes_cons_same hr).trans herror⟩
    · exact ⟨r, List.mem_cons_self, hr, checkShapes_cons_not_same hr⟩

end

/-! ## Narrowing -/

section

variable {q : Answers} {n : Nat} {tests : List (Reference × Criterion)}
  {flags : List (Nat → Bool)}

/-- The places where a test is satisfied, by the values that are read for its range. -/
def Flagged (q : Answers) (n : Nat) (test : Reference × Criterion) (flag : Nat → Bool) : Prop :=
  ∃ value : Nat → Value, q.cells test.1 true = .ok ((List.range n).map value) ∧
    ∀ i < n, (∀ r, value i ≠ .reference r) ∧ test.2.holds (value i) = flag i

/-- Values that are read for a range are flagged by its criterion. -/
theorem Flagged.of_values {r : Reference} {c : Criterion} {value : Nat → Value}
    (hcells : q.cells r true = .ok ((List.range n).map value))
    (hvalue : ∀ i < n, ∀ r, value i ≠ .reference r) :
    Flagged q n (r, c) fun i => c.holds (value i) :=
  ⟨value, hcells, fun i hi => ⟨hvalue i hi, rfl⟩⟩

/-- The values of a list that is read are flagged at their places. -/
theorem Flagged.of_cells {r : Reference} {c : Criterion} {vs : List Value}
    (hcells : q.cells r true = .ok vs) (hvs : ∀ w ∈ vs, ∀ r, w ≠ .reference r) :
    Flagged q vs.length (r, c) fun i => c.holds (vs.getD i .empty) := by
  have hvalues : (List.range vs.length).map (fun i => vs.getD i .empty) = vs := by
    refine List.ext_getElem (by simp) fun i hi hi' => ?_
    simp [List.getElem?_eq_getElem hi']
  refine .of_values (by rw [hvalues, hcells]) fun i hi => ?_
  have hmem : vs.getD i .empty ∈ vs := by
    rw [List.getD_eq_getElem?_getD, List.getElem?_eq_getElem hi]
    exact List.getElem_mem hi
  exact hvs _ hmem

/-- A criterion narrows a selection to the places that satisfy it as well.  Those that are excluded
already are not tested. -/
theorem narrow_map {α : Type} (c : Criterion) {l : List α} {flag : α → Bool} {value : α → Value}
    (hvalue : ∀ a ∈ l, ∀ r, value a ≠ .reference r) :
    narrow c (l.map fun a => (flag a, value a)) =
      .done (l.map fun a => flag a && c.holds (value a)) := by
  induction l with
  | nil => rfl
  | cons a l ih =>
    obtain ⟨ha, hl⟩ := List.forall_mem_cons.1 hvalue
    rw [List.map_cons, narrow, ih hl, c.test_eq_done ha]
    cases hflag : flag a with
    | false => simp [hflag]
    | true => simp [hflag]

/-- One range more, whose values are read, narrows a selection by one test more. -/
theorem select_cons_under {start : Option (List Bool)} {test : Reference × Criterion}
    {flag flag' : Nat → Bool} (htest : Flagged q n test flag')
    (hstart : start.getD ((List.range n).map fun _ => true) = (List.range n).map flag) :
    (select start (test :: tests)).under q =
      (select (some ((List.range n).map fun i => flag i && flag' i)) tests).under q := by
  obtain ⟨r, c⟩ := test
  obtain ⟨value, hcells, hvalue⟩ := htest
  have hread : (cells r true).under q = .ok ((List.range n).map value) :=
    (under_cells q r true).trans hcells
  have hzip : ((List.range n).map flag).zip ((List.range n).map value) =
      (List.range n).map fun i => (flag i, value i) := List.zip_map'
  have hnarrow : narrow c ((List.range n).map fun i => (flag i, value i)) =
      .done ((List.range n).map fun i => flag i && flag' i) := by
    rw [narrow_map c fun i hi => (hvalue i (List.mem_range.1 hi)).1]
    refine congrArg _ (List.map_congr_left fun i hi => ?_)
    rw [(hvalue i (List.mem_range.1 hi)).2]
  have hnone : ((List.range n).map flag).drop ((List.range n).map value).length = [] := by simp
  have htrue : ((List.range n).map value).map (fun _ => true) =
      (List.range n).map fun _ => true := List.map_map
  rw [select, bind_eq, under_bind_of_ok hread]
  simp only [htrue, hstart, hzip, hnarrow, bind_eq, done_bind, hnone, List.append_nil]

/-- Further ranges narrow a selection to the places that satisfy their criteria, too. -/
theorem select_some_under (htests : List.Forall₂ (Flagged q n) tests flags) (flag : Nat → Bool) :
    (select (some ((List.range n).map flag)) tests).under q =
      .ok ((List.range n).map fun i => flag i && flags.all (· i)) := by
  induction htests generalizing flag with
  | nil => simp [select]
  | cons htest _ ih =>
    rw [select_cons_under htest rfl, ih]
    simp only [List.all_cons, Bool.and_assoc]

/-- A selection is the conjunction of its tests. -/
theorem select_none_under (htests : List.Forall₂ (Flagged q n) tests flags) (hne : tests ≠ []) :
    (select none tests).under q = .ok ((List.range n).map fun i => flags.all (· i)) := by
  cases htests with
  | nil => exact absurd rfl hne
  | @cons test flag' tests flags htest hrest =>
    have hstart : (none : Option (List Bool)).getD ((List.range n).map fun _ => true) =
        (List.range n).map fun _ => true := rfl
    rw [select_cons_under htest hstart, select_some_under hrest]
    simp only [Bool.true_and, List.all_cons]

end

/-! ## Selecting and counting -/

section

variable {q : Answers} {function : String} {arguments : List Argument} {summed : Option Reference}
  {r : Reference} {v : Value} {ps : List (Reference × Value)} {n : Nat}
  {tests : List (Reference × Criterion)} {flags : List (Nat → Bool)}

/-- A selection reads its pairs, compares the shapes and tests the places. -/
theorem selection_under
    (h : Paired (GivesRange q function) (GivesValue q) arguments ((r, v) :: ps)) :
    (selection function arguments summed).under q =
      readCriteria ((r, v) :: ps) >>= fun tests =>
        checkShapes function r (ps.map (·.1) ++ summed.toList) >>= fun _ =>
          (select none tests).under q := by
  have hguard : (arguments.isEmpty || decide (arguments.length % 2 ≠ 0)) = false := by
    have hlength := h.length_eq
    have hne : arguments ≠ [] := by
      rintro rfl
      cases h
    simp [hlength, hne]
  rw [selection, hguard]
  simp only [Bool.false_eq_true, if_false, bind_eq]
  cases hread : readCriteria ((r, v) :: ps) with
  | error e => exact under_bind_of_error ((pairs_under h).trans hread) _
  | ok tests =>
    rw [under_bind_of_ok ((pairs_under h).trans hread), ranges_of_readCriteria hread, ok_bind]
    simp only [List.map_cons, List.cons_append, under_bind, under_ofExcept]

/-- Ranges of one shape whose criteria are read are tested place by place. -/
theorem selection_under_eq_ok
    (h : Paired (GivesRange q function) (GivesValue q) arguments ps) (hne : ps ≠ [])
    (hread : List.Forall₂ ReadAs ps tests)
    (hshape : ∀ r ∈ ps.map (·.1) ++ summed.toList, ∀ r' ∈ ps.map (·.1) ++ summed.toList,
      SameShape r r')
    (hflags : List.Forall₂ (Flagged q n) tests flags) :
    (selection function arguments summed).under q =
      .ok ((List.range n).map fun i => flags.all (· i)) := by
  obtain ⟨⟨r, v⟩, ps, rfl⟩ := List.exists_cons_of_ne_nil hne
  have htests : tests ≠ [] := by
    rintro rfl
    cases hread
  have hsame : ∀ r' ∈ ps.map (·.1) ++ summed.toList, SameShape r' r := fun r' hr' =>
    hshape r' (List.mem_cons_of_mem _ hr') r List.mem_cons_self
  rw [selection_under h, readCriteria_eq_ok hread, ok_bind, checkShapes_eq_ok hsame, ok_bind,
    select_none_under hflags htests]

/-- Ranges of several shapes are refused, if their criteria are not. -/
theorem selection_under_eq_error
    (h : Paired (GivesRange q function) (GivesValue q) arguments ps) (hne : ps ≠ [])
    (hread : List.Forall₂ ReadAs ps tests)
    (hshape : ∃ r ∈ ps.map (·.1) ++ summed.toList, ∃ r' ∈ ps.map (·.1) ++ summed.toList,
      ¬ SameShape r r') :
    ∃ r ∈ ps.map (·.1) ++ summed.toList, ∃ r' ∈ ps.map (·.1) ++ summed.toList,
      ¬ SameShape r' r ∧ (selection function arguments summed).under q =
        .error (.argument (.unequalRanges function r.text r'.text)) := by
  obtain ⟨⟨first, v⟩, ps, rfl⟩ := List.exists_cons_of_ne_nil hne
  have hrest : ∃ r' ∈ ps.map (·.1) ++ summed.toList, ¬ SameShape r' first := by
    by_contra hall
    push Not at hall
    have hfirst : ∀ r ∈ first :: (ps.map (·.1) ++ summed.toList), SameShape r first :=
      List.forall_mem_cons.2 ⟨⟨rfl, rfl⟩, hall⟩
    obtain ⟨r, hr, r', hr', hnot⟩ := hshape
    obtain ⟨hrows, hcolumns⟩ := hfirst r hr
    obtain ⟨hrows', hcolumns'⟩ := hfirst r' hr'
    exact hnot ⟨hrows.trans hrows'.symm, hcolumns.trans hcolumns'.symm⟩
  obtain ⟨r', hmem, hr', herror⟩ := checkShapes_eq_error function hrest
  refine ⟨first, List.mem_cons_self, r', List.mem_cons_of_mem _ hmem, hr', ?_⟩
  rw [selection_under h, readCriteria_eq_ok hread, ok_bind, herror, error_bind]

/-- A count is the number of places that are selected. -/
theorem countSelected_under :
    (countSelected function arguments).under q =
      ((selection function arguments none).under q).map fun flags =>
        .number (Float.ofNat (flags.countP id)) := by
  rw [countSelected, bind_eq, under_bind]
  cases (selection function arguments none).under q <;> rfl

/-- A count of one criterion is refused with it, and it counts the values that satisfy it. -/
theorem countSelected_under_one {a b : Argument} {vs : List Value}
    (ha : GivesRange q function a r) (hb : GivesValue q b v) (hcells : q.cells r true = .ok vs)
    (hvs : ∀ w ∈ vs, ∀ r, w ≠ .reference r) :
    (countSelected function [a, b]).under q =
      (Criterion.read v).map fun c => .number (Float.ofNat (vs.countP c.holds)) := by
  have hpaired : Paired (GivesRange q function) (GivesValue q) [a, b] [(r, v)] :=
    .cons ha hb .nil
  rw [countSelected_under]
  cases hread : Criterion.read v with
  | error e =>
    rw [selection_under hpaired, readCriteria_cons, hread]
    rfl
  | ok c =>
    have hselected : (selection function [a, b] none).under q = .ok (vs.map c.holds) := by
      rw [selection_under_eq_ok hpaired (by simp) (.cons ⟨rfl, hread⟩ .nil)
        (by simp [SameShape]) (.cons (.of_cells hcells hvs) .nil)]
      refine congrArg Except.ok (List.ext_getElem (by simp) fun i hi hi' => ?_)
      have hlt : i < vs.length := by simpa using hi
      simp [List.getElem?_eq_getElem hlt]
    rw [hselected]
    change Except.ok (Value.number (Float.ofNat ((vs.map c.holds).countP id))) = _
    rw [List.countP_map]
    rfl

end

end Spreadsheet.Functions
