import Spreadsheet.Proofs.Engine.Searching

/-!
# Finding a text in another one

`FIND` gives the first position from its start on at which a text occurs, and
formulas tell the same position by the part of the text that begins there: it is as
long as the text that is sought, and equal to it (`shownAt_iff`).  That nothing is
found means that no position shows the text (`Reached.find_least`).

The start counts by its whole part, and positions are numbers, which tell the
positions of a text apart up to `2 ^ 53`.  Beyond either, what is found is not the
first position that shows the text (`find_ne_least`).
-/

namespace Spreadsheet.Engine

open Spreadsheet.Decimal (toUnsigned64 whole?)
open Spreadsheet.Evaluation
open Spreadsheet.Evaluation.Program
open Spreadsheet.Formula (Error Expr Function)
open Spreadsheet.Functions
open Spreadsheet.Grid (Workbook)
open Spreadsheet.Text (OccursAt)

/-- Whether the part of a text that begins at a position and is as long as another text is that
text, as a formula of `EXACT`, `MID` and `LEN`. -/
def comparison (exact mid len : Function) (en eh ep : Expr) : Expr :=
  .call exact [.call mid [eh, ep, .call len [en]], en]

/-- A formula is true of a position. -/
def ShownAt (e : Engine) (h : Host) (o : Options) (formula : Expr → Expr) (p : Nat) : Prop :=
  ∃ ep, e.IsWhole h o ep p ∧ e.resultOf h o (formula ep) = .ok (.boolean true)

theorem exact_settled (q : Answers) (args : List Argument) :
    (Functions.exact args).under q >>= settledValue q = (Functions.exact args).under q := by
  simp only [Functions.exact, bind_eq, under_bind, LawfulMonad.bind_assoc]
  rfl

section

variable {e : Engine} {h : Host} {o : Options} {exact mid len : Function} {en eh ep : Expr}
  {needle haystack : String} {x : Float} {p : Nat}

namespace AtRest

variable (he : e.AtRest) (hh : h.KnowsNoNames)
include he hh

/-- A start is not NaN. -/
theorem isNaN_of_optionalNumber {rest : List Expr} (hx : e.OptionalNumber h o 1.0 rest x) :
    x.isNaN = false := by
  cases rest with
  | nil =>
    obtain rfl : x = 1.0 := hx
    decide +kernel
  | cons ex rest =>
    rw [OptionalNumber, numberOf, he.runProgram hh] at hx
    exact isNaN_of_number_under hx

variable (hexact : exact.body = .builtin .exact) (hmid : mid.body = .builtin .mid)
  (hlen : len.body = .builtin .len) (hneedle : e.IsText h o en needle)
  (hhaystack : e.IsText h o eh haystack)
include hexact hmid hlen hneedle hhaystack

theorem resultOf_comparison (hx : e.numberOf h o ep = .ok x) :
    e.resultOf h o (comparison exact mid len en eh ep) =
      partCompared haystack x (Float.ofNat needle.toList.length) needle := by
  rw [IsText, he.runProgram hh] at hneedle hhaystack
  rw [numberOf, he.runProgram hh] at hx
  have hlength := number_under (len_under hneedle) (isNaN_ofNat needle.toList.length)
  rw [← exact_mid_under hhaystack hx hlength hneedle, comparison, he.resultOf_call hh hexact,
    argumentsOf, argumentsOf, argumentsOf, argumentOf_call hmid, argumentsOf, argumentsOf,
    argumentsOf, argumentsOf, argumentOf_call hlen]
  exact exact_settled _ _

theorem tryEvaluate_comparison {text : String}
    (htext : treesOf e.registry text (comparison exact mid len en eh ep)) (ho : o.format = none)
    (hx : e.numberOf h o ep = .ok x) :
    (e.tryEvaluate h text o).1 =
      partCompared haystack x (Float.ofNat needle.toList.length) needle := by
  rw [he.tryEvaluate_eq_resultOf hh htext, ho, map_formatted_none,
    he.resultOf_comparison hh hexact hmid hlen hneedle hhaystack hx]

/-- Formulas show a text just at the positions where it occurs. -/
theorem resultOf_comparison_iff (hne : needle.toList ≠ [])
    (hsize : haystack.toList.length ≤ 2 ^ 53) (hp : e.IsWhole h o ep p) :
    e.resultOf h o (comparison exact mid len en eh ep) = .ok (.boolean true) ↔
      OccursAt needle.toList haystack.toList p := by
  obtain ⟨x, hx, hwhole⟩ := hp
  rw [he.resultOf_comparison hh hexact hmid hlen hneedle hhaystack hx]
  rw [numberOf, he.runProgram hh] at hx
  exact partCompared_iff (isNaN_of_number_under hx) hwhole hne hsize

/-- Up to `2 ^ 53` there is a formula for every position. -/
theorem shownAt_iff (hne : needle.toList ≠ []) (hsize : haystack.toList.length ≤ 2 ^ 53) :
    e.ShownAt h o (comparison exact mid len en eh) p ↔
      OccursAt needle.toList haystack.toList p := by
  constructor
  · rintro ⟨ep, hp, hshown⟩
    exact (he.resultOf_comparison_iff hh hexact hmid hlen hneedle hhaystack hne hsize hp).1 hshown
  · intro hoccurs
    have hpositive := List.length_pos_iff.2 hne
    have hend := Text.add_length_le_of_occursAt hne hoccurs
    have hwhole : Decimal.whole? (Float.ofNat p) = some ↑p := Decimal.whole?_ofNat (by omega)
    have hp : e.IsWhole h o (.literal (.number (Float.ofNat p))) p :=
      isWhole_literal (isNaN_ofNat p) hwhole
    exact ⟨_, hp, (he.resultOf_comparison_iff hh hexact hmid hlen hneedle hhaystack hne hsize
      hp).2 hoccurs⟩

end AtRest

end

section

variable {settings : Settings} {fs : List Function} {e : Engine} {h : Host} {o : Options}
  {f exact mid len : Function} {en eh : Expr} {rest : List Expr} {text needle haystack : String}
  {x : Float}

/-- What a search comes to. -/
theorem AtRest.find_under (he : e.AtRest) (hh : h.KnowsNoNames) (hneedle : e.IsText h o en needle)
    (hhaystack : e.IsText h o eh haystack) (hstart : e.OptionalNumber h o 1.0 rest x)
    (hlow : ¬ x < 1.0) (hne : needle.toList ≠ []) :
    (applyBuiltin ((e.surroundings h).context o)
      (argumentsOf ((e.surroundings h).context o) (en :: eh :: rest)) .find).under
        (answers e.registry h (o.sheet.getD h.selected)) =
      foundAt needle (toUnsigned64 x - 1)
        (Text.position? needle.toList (haystack.toList.drop (toUnsigned64 x - 1))) := by
  have hx := he.optionalNumber_under hh hstart
  rw [IsText, he.runProgram hh] at hneedle hhaystack
  exact Functions.find_under hneedle hhaystack (hx _ _) hlow hne

theorem AtRest.tryEvaluate_find (he : e.AtRest) (hh : h.KnowsNoNames)
    (hf : f.body = .builtin .find) (htext : treesOf e.registry text (.call f (en :: eh :: rest)))
    (ho : o.format = none) (hneedle : e.IsText h o en needle)
    (hhaystack : e.IsText h o eh haystack) (hstart : e.OptionalNumber h o 1.0 rest x)
    (hlow : ¬ x < 1.0) (hne : needle.toList ≠ []) :
    (e.tryEvaluate h text o).1 = foundAt needle (toUnsigned64 x - 1)
      (Text.position? needle.toList (haystack.toList.drop (toUnsigned64 x - 1))) := by
  rw [he.tryEvaluate_of_call hh hf htext ho,
    he.find_under hh hneedle hhaystack hstart hlow hne, foundAt_settled]

/-- What is found of a text that is not empty is the first position from a start on that formulas
show it at, and nothing is found just when they show it nowhere. -/
theorem Reached.find_least (he : Reached settings fs e) (hh : h.KnowsNoNames)
    (hf : f.body = .builtin .find) (hexact : exact.body = .builtin .exact)
    (hmid : mid.body = .builtin .mid) (hlen : len.body = .builtin .len)
    (htext : treesOf e.registry text (.call f (en :: eh :: rest))) (ho : o.format = none)
    (hneedle : e.IsText h o en needle) (hhaystack : e.IsText h o eh haystack)
    (hstart : e.OptionalNumber h o 1.0 rest x) (hlow : ¬ x < 1.0) (hne : needle ≠ "")
    (hsize : haystack.toList.length ≤ 2 ^ 53) :
    let result := (e.tryEvaluate h text o).1
    let Shown := e.ShownAt h o (comparison exact mid len en eh)
    (∀ p ≤ 2 ^ 53, result = .ok (.number (Float.ofNat p)) ↔
        IsLeast {p | toUnsigned64 x ≤ p ∧ Shown p} p) ∧
      (result = .error (.notFound needle) ↔ ∀ p, toUnsigned64 x ≤ p → ¬ Shown p) := by
  intro result Shown
  have hne : needle.toList ≠ [] := by rwa [Ne, String.toList_eq_nil_iff]
  have hresult : result = _ :=
    he.atRest.1.tryEvaluate_find hh hf htext ho hneedle hhaystack hstart hlow hne
  have hshown (p : Nat) : Shown p ↔ OccursAt needle.toList haystack.toList p :=
    he.atRest.1.shownAt_iff hh hexact hmid hlen hneedle hhaystack hne hsize
  have hk := Decimal.one_le_toUnsigned64 (he.atRest.1.isNaN_of_optionalNumber hh hstart) hlow
  rw [hresult]
  simp only [hshown]
  exact foundAt_position?_iff hk hne hsize

end

/-- A text occurs at 2, 4 and 8, and the first two occurrences overlap.  From 3 on the first one is
at 4. -/
theorem Reached.find_least_overlapping :
    let e := Engine.new {}
    let b := searched "aña" "éañaña añaña"
    Reached {} [] e ∧ (e.tryEvaluate b.host "=FIND(A1,B1,3.5)" {}).1 = .ok (.number 4.0) := by
  intro e b
  have he : Reached {} [] e := .new
  let half : Expr := .literal (.number 3.5)
  have htext : treesOf .standard "=FIND(A1,B1,3.5)"
      (.call (Formula.Builtin.function .find)
        [.reference ⟨.single { row := 0, column := 0 }, none⟩,
          .reference ⟨.single { row := 0, column := 1 }, none⟩, half]) :=
    ⟨"FIND(A1,B1,3.5)", rfl, rfl⟩
  have hneedle := isText_needle "aña" "éañaña añaña"
  have hhaystack := isText_haystack "aña" "éañaña añaña"
  have hstart : e.OptionalNumber b.host {} 1.0 [half] 3.5 := numberOf_literal (by decide +kernel)
  have hlow : ¬ (3.5 : Float) < 1.0 := by decide +kernel
  have hthree : toUnsigned64 3.5 = 3 := by decide +kernel
  have hsize : "éañaña añaña".toList.length ≤ 2 ^ 53 := by decide
  have hexact : (Formula.Builtin.function .exact).body = .builtin .exact := rfl
  have hmid : (Formula.Builtin.function .mid).body = .builtin .mid := rfl
  have hlen : (Formula.Builtin.function .len).body = .builtin .len := rfl
  have hshown (p : Nat) := he.atRest.1.shownAt_iff b.host_knowsNoNames hexact hmid hlen hneedle
    hhaystack (p := p) (by decide) hsize
  have hbefore : ∀ p < 4, 3 ≤ p → ¬ OccursAt "aña".toList "éañaña añaña".toList p := by decide
  obtain ⟨hfound, -⟩ := Reached.find_least he b.host_knowsNoNames rfl hexact hmid hlen htext rfl
    hneedle hhaystack hstart hlow (by decide) hsize
  have hfour : Float.ofNat 4 = 4.0 := by decide +kernel
  rw [← hfour]
  refine ⟨he, (hfound 4 (by omega)).2 ⟨⟨by rw [hthree]; decide, (hshown 4).2 (by decide)⟩, ?_⟩⟩
  rintro p ⟨hp, hp'⟩
  rw [hthree] at hp
  exact Nat.le_of_not_lt fun hlt => hbefore p hlt hp ((hshown p).1 hp')

/-- A text that ends in another character than all before it. -/
def late (n : Nat) : String := String.ofList (List.replicate n 'b' ++ ['a'])

theorem position?_late (n : Nat) : Text.position? "a".toList (late n).toList = some n := by
  simp only [late, String.toList_ofList]
  induction n with
  | zero => rfl
  | succ n ih =>
    rw [List.replicate_succ, List.cons_append, Text.position?_cons, ih]
    rfl

theorem take_drop_late {n : Nat} (hn : 0 < n) : ((late n).toList.drop (n - 1)).take 1 = ['b'] := by
  rw [late, String.toList_ofList, List.drop_append_of_le_length (by simp), List.drop_replicate,
    show n - (n - 1) = 1 by omega]
  rfl

/-- From 1.5 on a text is found at 1, although 2 is the first position behind the start that shows
it.  And what stands at `2 ^ 53 + 1` is found at a number that stands for `2 ^ 53`, where formulas
do not show it. -/
theorem find_ne_least :
    let e := Engine.new {}
    let twice := (searched "a" "aa").host
    let long := (searched "a" (late (2 ^ 53))).host
    ((e.tryEvaluate twice "=FIND(A1,B1,3/2)" {}).1 = .ok (.number 1.0) ∧ (1.0 : Float) < 3 / 2 ∧
        (e.tryEvaluate twice "=EXACT(MID(B1,2,LEN(A1)),A1)" {}).1 = .ok (.boolean true)) ∧
      (e.tryEvaluate long "=FIND(A1,B1)" {}).1 = .ok (.number (Float.ofNat (2 ^ 53 + 1))) ∧
      (e.tryEvaluate long "=EXACT(MID(B1,FIND(A1,B1),LEN(A1)),A1)" {}).1 =
        .ok (.boolean false) := by
  intro e twice long
  have he : Reached {} [] e := .new
  let en : Expr := .reference ⟨.single { row := 0, column := 0 }, none⟩
  let eh : Expr := .reference ⟨.single { row := 0, column := 1 }, none⟩
  let half : Expr := .binary .divide (.literal (.number 3.0)) (.literal (.number 2.0))
  have hhalf : treesOf .standard "=FIND(A1,B1,3/2)"
      (.call (Formula.Builtin.function .find) [en, eh, half]) := ⟨"FIND(A1,B1,3/2)", rfl, rfl⟩
  have hone : treesOf .standard "=FIND(A1,B1)"
      (.call (Formula.Builtin.function .find) [en, eh]) := ⟨"FIND(A1,B1)", rfl, rfl⟩
  have hfrom : e.OptionalNumber twice {} 1.0 [half] 1.5 := by
    change e.numberOf twice {} half = .ok 1.5
    decide +kernel
  let compared (ep : Expr) : Expr := comparison (Formula.Builtin.function .exact)
    (Formula.Builtin.function .mid) (Formula.Builtin.function .len) en eh ep
  have hsecond : treesOf .standard "=EXACT(MID(B1,2,LEN(A1)),A1)"
      (compared (.literal (.number 2.0))) := ⟨"EXACT(MID(B1,2,LEN(A1)),A1)", rfl, rfl⟩
  have hfound : treesOf .standard "=EXACT(MID(B1,FIND(A1,B1),LEN(A1)),A1)"
      (compared (.call (Formula.Builtin.function .find) [en, eh])) :=
    ⟨"EXACT(MID(B1,FIND(A1,B1),LEN(A1)),A1)", rfl, rfl⟩
  have htwo : e.numberOf twice {} (.literal (.number 2.0)) = .ok 2.0 :=
    numberOf_literal (by decide +kernel)
  have hh : long.KnowsNoNames := (searched "a" (late (2 ^ 53))).host_knowsNoNames
  have hfirst : e.OptionalNumber long {} 1.0 [] 1.0 := rfl
  have hlast : foundAt "a" (toUnsigned64 1.0 - 1) (Text.position? "a".toList
      ((late (2 ^ 53)).toList.drop (toUnsigned64 1.0 - 1))) =
        .ok (.number (Float.ofNat (2 ^ 53 + 1))) := by
    have hzero : toUnsigned64 1.0 - 1 = 0 := by decide +kernel
    rw [hzero, List.drop_zero, position?_late, foundAt, Nat.zero_add]
  have hposition : positionOf "MID" (Float.ofNat (2 ^ 53 + 1)) = .ok (2 ^ 53 - 1) := by
    decide +kernel
  have hcount : countOf "MID" (Float.ofNat "a".toList.length) = .ok 1 := by decide +kernel
  refine ⟨⟨?_, by decide +kernel, ?_⟩, ?_, ?_⟩
  · rw [he.atRest.1.tryEvaluate_find (searched "a" "aa").host_knowsNoNames rfl hhalf rfl
      (isText_needle _ _) (isText_haystack _ _) hfrom (by decide +kernel) (by decide)]
    decide +kernel
  · rw [he.atRest.1.tryEvaluate_comparison (searched "a" "aa").host_knowsNoNames rfl rfl rfl
      (isText_needle _ _) (isText_haystack _ _) hsecond rfl htwo]
    decide +kernel
  · rw [he.atRest.1.tryEvaluate_find hh rfl hone rfl (isText_needle _ _) (isText_haystack _ _)
      hfirst (by decide +kernel) (by decide), hlast]
  · have hnumber : e.numberOf long {} (.call (Formula.Builtin.function .find) [en, eh]) =
        .ok (Float.ofNat (2 ^ 53 + 1)) := by
      rw [numberOf, he.atRest.1.runProgram hh, argumentOf_call rfl]
      refine number_under ?_ (isNaN_ofNat _)
      exact (he.atRest.1.find_under hh (isText_needle _ _) (isText_haystack _ _) hfirst
        (by decide +kernel) (by decide)).trans hlast
    rw [he.atRest.1.tryEvaluate_comparison hh rfl rfl rfl (isText_needle _ _)
      (isText_haystack _ _) hfound rfl hnumber, partCompared, hposition, ok_bind, hcount, ok_bind,
      take_drop_late (by decide)]
    decide +kernel

end Spreadsheet.Engine
