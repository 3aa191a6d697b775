import Spreadsheet.Proofs.Engine.Expressions
import Spreadsheet.Proofs.Functions.Texts

/-!
# Replacing occurrences of a text

`SUBSTITUTE` cuts a text at the occurrences of another one (`Scan`).  With a number
it replaces one of them, and leaves the text as it is where there are not so many.
Formulas that do so one after the other, the last occurrence first, give what the
call without a number gives (`Reached.substitute_occurrences`).
-/

namespace Spreadsheet.Engine

open Spreadsheet.Decimal (toUnsigned64)
open Spreadsheet.Evaluation
open Spreadsheet.Formula (Builtin Expr Function)
open Spreadsheet.Functions
open Spreadsheet.Grid (Workbook)
open Spreadsheet.Text (Scan joined replaceAll replaceNth)

/-- An expression is computed to a number that stands for a position.  It counts by its whole part,
as far as 64 bits reach. -/
def IsPosition (e : Engine) (h : Host) (o : Options) (ex : Expr) (p : Nat) : Prop :=
  ∃ x, e.numberOf h o ex = .ok x ∧ ¬ x < 1.0 ∧ toUnsigned64 x = p

theorem isPosition_of_isWhole {e : Engine} {h : Host} {o : Options} {ex : Expr} {p : Nat}
    (hp : e.IsWhole h o ex p) (hlow : 1 ≤ p) (hhigh : p < 2 ^ 64) : e.IsPosition h o ex p := by
  obtain ⟨x, hx, hwhole⟩ := hp
  have hposition : toUnsigned64 x = p := by
    rw [Decimal.toUnsigned64_of_whole? hwhole]
    omega
  exact ⟨x, hx, Decimal.not_lt_one (hposition ▸ hlow), hposition⟩

/-- Of the occurrences that a scan has found one is replaced, by its number, and nothing else is
changed. -/
def ReplacesAt (old new t s : String) (parts : List (List Char)) (rest : List Char) (i : Nat) :
    Prop :=
  ∀ before part behind, parts = before ++ part :: behind → i = before.length + 1 →
    t.toList = joined old.toList before (part ++ old.toList ++ joined old.toList behind rest) ∧
      s.toList = joined old.toList before (part ++ new.toList ++ joined old.toList behind rest)

/-- The formula that replaces `n` occurrences in turn, from the one with a number down. -/
def inTurn (f : Function) (et eo ew : Expr) (ei : Nat → Expr) (last : Nat) : Nat → Expr
  | 0 => et
  | n + 1 => .call f [inTurn f et eo ew ei last n, eo, ew, ei (last - n)]

section

variable {settings : Settings} {fs : List Function} {e : Engine} {h : Host} {o : Options}
  {f : Function} {et eo ew ei : Expr} {t old new s : String} {i : Nat}

namespace AtRest

variable (he : e.AtRest) (hh : h.KnowsNoNames)
include he hh

theorem one_le_of_isPosition (hi : e.IsPosition h o ei i) : 1 ≤ i := by
  obtain ⟨x, hx, hlow, rfl⟩ := hi
  rw [numberOf, he.runProgram hh] at hx
  exact Decimal.one_le_toUnsigned64 (isNaN_of_number_under hx) hlow

/-- A call that gives a text is computed to it as a formula and as an argument. -/
theorem text_of_call {b : Builtin} (hf : f.body = .builtin b) {es : List Expr}
    (hcall : (applyBuiltin ((e.surroundings h).context o)
      (argumentsOf ((e.surroundings h).context o) es) b).under
        (answers e.registry h (o.sheet.getD h.selected)) = .ok (.text s)) :
    e.resultOf h o (.call f es) = .ok (.text s) ∧ e.IsText h o (.call f es) s := by
  constructor
  · rw [he.resultOf_call hh hf, hcall]
    rfl
  · rw [IsText, he.runProgram hh, argumentOf_call hf]
    exact text_under_of_value hcall nofun

variable (hf : f.body = .builtin .substitute) (ht : e.IsText h o et t)
  (hold : e.IsText h o eo old) (hnew : e.IsText h o ew new) (hne : old.toList ≠ [])
include hf ht hold hnew hne

theorem substitute_all :
    e.resultOf h o (.call f [et, eo, ew]) =
      .ok (.text (String.ofList (replaceAll old.toList new.toList 0 t.toList))) := by
  rw [IsText, he.runProgram hh] at ht hold hnew
  exact (he.text_of_call hh hf (substitute_all_under ht hold hnew hne)).1

theorem substitute_nth (hi : e.IsPosition h o ei i) :
    let s := String.ofList (replaceNth old.toList new.toList (i - 1) t.toList)
    e.resultOf h o (.call f [et, eo, ew, ei]) = .ok (.text s) ∧
      e.IsText h o (.call f [et, eo, ew, ei]) s := by
  intro s
  obtain ⟨x, hx, hlow, rfl⟩ := hi
  rw [IsText, he.runProgram hh] at ht hold hnew
  rw [numberOf, he.runProgram hh] at hx
  exact he.text_of_call hh hf (substitute_nth_under ht hold hnew hne hx hlow)

/-- With some occurrences replaced in turn the others are still to be replaced. -/
theorem isText_inTurn {ei : Nat → Expr} {last : Nat}
    (hi : ∀ i, 1 ≤ i → i ≤ last → e.IsPosition h o (ei i) i) {n : Nat} (hn : n ≤ last) :
    ∃ s, e.IsText h o (inTurn f et eo ew ei last n) s ∧
      (0 < n → e.resultOf h o (inTurn f et eo ew ei last n) = .ok (.text s)) ∧
      Text.inTurn old.toList new.toList (last - n) s.toList =
        Text.inTurn old.toList new.toList last t.toList := by
  induction n with
  | zero => exact ⟨t, ht, fun h => absurd h (lt_irrefl 0), rfl⟩
  | succ n ih =>
    obtain ⟨s, hs, -, hrest⟩ := ih (by omega)
    obtain ⟨hresult, htext⟩ :=
      he.substitute_nth hh hf hs hold hnew hne (hi (last - n) (by omega) (by omega))
    refine ⟨_, htext, fun _ => hresult, ?_⟩
    rw [← hrest, show last - n = last - (n + 1) + 1 by omega, Text.inTurn, String.toList_ofList,
      Nat.add_sub_cancel]

end AtRest

/-- A text that is not empty cuts another one at its occurrences.  A call with a number replaces the
one with that number and nothing else, and the text stays as it is just when there is none or the
replacement is the text itself.  Calls with all numbers, the last one first, give what the call
without a number gives. -/
theorem Reached.substitute_occurrences (he : Reached settings fs e) (hh : h.KnowsNoNames)
    (hf : f.body = .builtin .substitute) (ht : e.IsText h o et t) (hold : e.IsText h o eo old)
    (hnew : e.IsText h o ew new) (hne : old ≠ "") :
    ∃ parts rest, Scan old.toList t.toList parts rest ∧
      (∀ ei i, e.IsPosition h o ei i →
        ∃ s, e.resultOf h o (.call f [et, eo, ew, ei]) = .ok (.text s) ∧
          ReplacesAt old new t s parts rest i ∧ (s = t ↔ parts.length < i ∨ new = old)) ∧
      (∀ ei, (∀ i, 1 ≤ i → i ≤ parts.length → e.IsPosition h o (ei i) i) →
        ∃ s, e.resultOf h o (.call f [et, eo, ew]) = .ok (.text s) ∧
          e.IsText h o (inTurn f et eo ew ei parts.length parts.length) s ∧
          (0 < parts.length →
            e.resultOf h o (inTurn f et eo ew ei parts.length parts.length) = .ok (.text s))) := by
  have hne : old.toList ≠ [] := by rwa [Ne, String.toList_eq_nil_iff]
  obtain ⟨parts, rest, hscan⟩ := Text.exists_scan hne t.toList
  refine ⟨parts, rest, hscan, fun ei i hi => ?_, fun ei hei => ?_⟩
  · obtain ⟨hresult, -⟩ := he.atRest.1.substitute_nth hh hf ht hold hnew hne hi
    have hlow := he.atRest.1.one_le_of_isPosition hh hi
    refine ⟨_, hresult, ?_, ?_⟩
    · rintro before part behind rfl rfl
      rw [String.toList_ofList, Nat.add_sub_cancel]
      exact hscan.replaceNth_eq hne
    · rw [← String.toList_inj, String.toList_ofList, hscan.replaceNth_eq_self_iff hne,
        Nat.le_sub_one_iff_lt hlow, String.toList_inj]
  · obtain ⟨s, htext, hresult, hdone⟩ :=
      he.atRest.1.isText_inTurn hh hf ht hold hnew hne hei le_rfl
    rw [Nat.sub_self, hscan.inTurn_eq_replaceAll hne] at hdone
    change s.toList = _ at hdone
    refine ⟨s, ?_, htext, hresult⟩
    rw [he.atRest.1.substitute_all hh hf ht hold hnew hne, ← hdone, String.ofList_toList]

end

/-- A text, one to look for in it and one to replace that with. -/
def replaced (t old new : String) : Workbook where
  sheets := [
    { name := "a"
      cells := [
        ((0, 0), { content := .text t }), ((0, 1), { content := .text old }),
        ((0, 2), { content := .text new })] }]

/-- The occurrences overlap with others, and the replacement makes a new one.  The second one is
replaced, there is no third one, and replacing them in turn is replacing all. -/
theorem Reached.substitute_occurrences_overlapping :
    let e := Engine.new {}
    let h := (replaced "aaabaaa" "aa" "a").host
    Reached {} [] e ∧
      (e.tryEvaluate h "=SUBSTITUTE(A1,B1,C1,2)" {}).1 = .ok (.text "aaabaa") ∧
      (e.tryEvaluate h "=SUBSTITUTE(A1,B1,C1,3)" {}).1 = .ok (.text "aaabaaa") ∧
      (e.tryEvaluate h "=SUBSTITUTE(SUBSTITUTE(A1,B1,C1,2),B1,C1,1)" {}).1 =
        (e.tryEvaluate h "=SUBSTITUTE(A1,B1,C1)" {}).1 := by
  intro e h
  have he : Reached {} [] e := .new
  have hh : h.KnowsNoNames := (replaced "aaabaaa" "aa" "a").host_knowsNoNames
  let f : Function := Formula.Builtin.function .substitute
  let et : Expr := .reference ⟨.single { row := 0, column := 0 }, none⟩
  let eo : Expr := .reference ⟨.single { row := 0, column := 1 }, none⟩
  let ew : Expr := .reference ⟨.single { row := 0, column := 2 }, none⟩
  let number (x : Float) : Expr := .literal (.number x)
  let position (i : Nat) : Expr := if i = 1 then number 1.0 else number 2.0
  have hsecond : treesOf .standard "=SUBSTITUTE(A1,B1,C1,2)" (.call f [et, eo, ew, number 2.0]) :=
    ⟨"SUBSTITUTE(A1,B1,C1,2)", rfl, rfl⟩
  have hthird : treesOf .standard "=SUBSTITUTE(A1,B1,C1,3)" (.call f [et, eo, ew, number 3.0]) :=
    ⟨"SUBSTITUTE(A1,B1,C1,3)", rfl, rfl⟩
  have hturn : treesOf .standard "=SUBSTITUTE(SUBSTITUTE(A1,B1,C1,2),B1,C1,1)"
      (inTurn f et eo ew position 2 2) :=
    ⟨"SUBSTITUTE(SUBSTITUTE(A1,B1,C1,2),B1,C1,1)", rfl, rfl⟩
  have hevery : treesOf .standard "=SUBSTITUTE(A1,B1,C1)" (.call f [et, eo, ew]) :=
    ⟨"SUBSTITUTE(A1,B1,C1)", rfl, rfl⟩
  have hnumber {x : Float} {i : Nat} (hx : Decimal.whole? x = some ↑i)
      (hnan : x.isNaN = false) (hlow : 1 ≤ i) (hhigh : i ≤ 3) : e.IsPosition h {} (number x) i :=
    isPosition_of_isWhole (isWhole_literal hnan hx) hlow (by omega)
  have hone : e.IsPosition h {} (number 1.0) 1 :=
    hnumber (by decide +kernel) (by decide +kernel) (by decide) (by decide)
  have htwo : e.IsPosition h {} (number 2.0) 2 :=
    hnumber (by decide +kernel) (by decide +kernel) (by decide) (by decide)
  have hthree : e.IsPosition h {} (number 3.0) 3 :=
    hnumber (by decide +kernel) (by decide +kernel) (by decide) (by decide)
  have hf : f.body = .builtin .substitute := rfl
  have ht : e.IsText h {} et "aaabaaa" := rfl
  have hold : e.IsText h {} eo "aa" := rfl
  have hnew : e.IsText h {} ew "a" := rfl
  obtain ⟨parts, rest, hscan, honce, hall⟩ :=
    Reached.substitute_occurrences he hh hf ht hold hnew (by decide)
  have hrest : Scan "aa".toList ['a'] [] ['a'] :=
    .nothing fun p hp => Text.not_occursAt_of_position? (k := 1) le_rfl (by decide) hp.1 hp
  have hbegin : Text.EndsFirst "aa".toList [] := by decide
  have hmiddle : Text.EndsFirst "aa".toList ['a', 'b'] := by decide
  have hcut : Scan "aa".toList "aaabaaa".toList [[], ['a', 'b']] ['a'] :=
    .found ((Text.isLeast_iff_endsFirst _).2 hbegin)
      (.found ((Text.isLeast_iff_endsFirst _).2 hmiddle) hrest)
  obtain ⟨rfl, rfl⟩ := hscan.unique hcut
  have hgives {text : String} {tree : Expr} (htext : treesOf .standard text tree) :
      (e.tryEvaluate h text {}).1 = e.resultOf h {} tree := by
    rw [he.atRest.1.tryEvaluate_eq_resultOf hh htext, map_formatted_none]
  refine ⟨he, ?_, ?_, ?_⟩
  · obtain ⟨s, hresult, hreplaces, -⟩ := honce _ 2 htwo
    obtain ⟨-, hs⟩ := hreplaces [[]] ['a', 'b'] [] rfl rfl
    have hs : s = "aaabaa" := String.toList_inj.1 (hs.trans (by decide))
    rw [hgives hsecond, hresult, hs]
  · obtain ⟨s, hresult, -, hself⟩ := honce _ 3 hthree
    rw [hgives hthird, hresult, hself.2 (.inl (by decide))]
  · have hposition (i : Nat) (hlow : 1 ≤ i) (hhigh : i ≤ 2) : e.IsPosition h {} (position i) i := by
      obtain rfl | rfl : i = 1 ∨ i = 2 := by omega
      · exact hone
      · exact htwo
    obtain ⟨s, hresult, -, hdone⟩ := hall position hposition
    rw [hgives hturn, hgives hevery, hresult]
    exact hdone (by decide)

end Spreadsheet.Engine
