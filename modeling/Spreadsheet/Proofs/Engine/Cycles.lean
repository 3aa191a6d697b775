import Mathlib.Logic.Relation
import Spreadsheet.Proofs.Engine.Acyclic
import Spreadsheet.Proofs.Evaluation.Strict

/-!
# Workbooks with cycles

A cell is on a cycle when the formulas of some cells, each read by the one
before, lead from the cell back to it.  Somewhere on the way around a key is
held already, and the reading is refused as a circular reference.  The error
becomes the text of a cell, which the cell before on the cycle reads, and so on
back to the first one.  Whether that one shows an error depends on what all the
formulas between do with it.

* Where each cell is the first one of the reference that is read, the error stays
  (`Reached.isErrorText_of_cycle`).  The formulas along the cycle fail one after
  the other, by `argumentOf_fails`.  The induction is on the number of free keys,
  since every reading holds one more, or is refused.
* Where a cell is one of a range that a reducing function reads, the error can be
  lost.  The function leaves texts out, also texts of errors, and reduces the
  numbers that there are (`not_isErrorText_of_cycle`).
-/

namespace Spreadsheet.Engine

open Spreadsheet.Evaluation
open Spreadsheet.Formula (Error Expr Extent Function Reference Registry)
open Spreadsheet.Grid (Range Workbook)

/-! ## Cells that read each other -/

/-- A cell of a workbook. -/
structure Place where
  /-- The index of its sheet. -/
  sheet : Nat
  /-- Its row. -/
  row : Nat
  /-- Its column. -/
  column : Nat

/-- The tree of the formula in a cell, if there is one that can be parsed. -/
def treeAt? (registry : Registry) (h : Host) (c : Place) : Option Expr :=
  match h.content c.sheet c.row c.column with
  | .formula text =>
    (formulaBody? text).bind fun body => (Formula.parse registry body).toOption
  | _ => none

/-- The references that the formula of a cell reads through basic operations and reducing
functions. -/
def readsAt (registry : Registry) (h : Host) (c : Place) : List (Reference × Extent) :=
  ((treeAt? registry h c).map Expr.reads).getD []

/-- The formula of a cell reads another cell. -/
inductive Reads (registry : Registry) (h : Host) : Extent → Place → Place → Prop where
  /-- It reads the first cell of a reference. -/
  | first {c r i} :
    (r, .first) ∈ readsAt registry h c → sheetOf h c.sheet r = .ok i →
      Reads registry h .first c ⟨i, r.range.top, r.range.left⟩
  /-- It reads all cells of a reference. -/
  | all {c r i row column} :
    (r, .all) ∈ readsAt registry h c → sheetOf h c.sheet r = .ok i →
      r.range.contains row column = true → Reads registry h .all c ⟨i, row, column⟩

theorem exists_parse_of_treeAt? {registry : Registry} {h : Host} {c : Place} {e : Expr}
    (he : treeAt? registry h c = some e) :
    ∃ text body, h.content c.sheet c.row c.column = .formula text ∧
      formulaBody? text = some body ∧ Formula.parse registry body = .ok e := by
  unfold treeAt? at he
  split at he
  next text hcontent =>
    obtain ⟨body, hbody, hparse⟩ := Option.bind_eq_some_iff.1 he
    refine ⟨text, body, hcontent, hbody, ?_⟩
    cases hx : Formula.parse registry body with
    | ok e' =>
      rw [hx] at hparse
      cases hparse
      rfl
    | error err =>
      rw [hx] at hparse
      cases hparse
  next => cases he

theorem exists_tree_of_mem_readsAt {registry : Registry} {h : Host} {c : Place}
    {read : Reference × Extent} (hread : read ∈ readsAt registry h c) :
    ∃ e, treeAt? registry h c = some e ∧ read ∈ e.reads := by
  unfold readsAt at hread
  cases he : treeAt? registry h c with
  | none =>
    rw [he] at hread
    cases hread
  | some e =>
    rw [he] at hread
    exact ⟨e, rfl, hread⟩

/-! ## Values along a cycle -/

theorem isErrorText_orErrorText {x : Except Error Value} (h : Spoilt x) :
    (orErrorText x).IsErrorText := by
  cases x with
  | ok v => exact h v rfl
  | error e => exact ⟨e.message, rfl⟩

/-- A formula that reads a spoilt cell has a spoilt value. -/
theorem spoilt_settled {q : Answers} {r : Reference} (hr : Spoilt (q.cell r)) (c : Context)
    {e : Expr} (h : (r, .first) ∈ e.reads) : Spoilt ((settled c e).under q) := by
  obtain rfl | ⟨p, hp, hfails⟩ := argumentOf_fails hr c e h
  · intro v hv
    simp only [settled, Evaluation.evaluate, argumentOf, Argument.result, Program.bind_eq,
      Program.under_bind, Program.under_cell] at hv
    obtain ⟨w, hw, hv⟩ := Program.bind_eq_ok.1 hv
    obtain ⟨message, rfl⟩ := hr w hw
    cases hv
    exact ⟨message, rfl⟩
  · apply Spoilt.of_fails
    rw [settled, Evaluation.evaluate, hp]
    exact hfails.bind _

section

variable {s : Surroundings} {b : Workbook} (hs : s.host = b.host)
include hs

/-- The value of a cell is that of its tree. -/
theorem value_of_treeAt? {answers : Nat → Answers} {c : Place} {e : Expr}
    (he : treeAt? s.registry s.host c = some e) :
    s.value answers c.sheet c.row c.column =
      orErrorText ((settled (s.context (cellOptions c.sheet c.row c.column)) e).under
        (answers c.sheet)) := by
  obtain ⟨text, body, hcontent, hbody, hparse⟩ := exists_parse_of_treeAt? he
  have hformula (c : Context) : s.formula c body = settled c e := by
    rw [Surroundings.formula, parse_eq_done (knowsNoNames hs) c hparse]
    rfl
  have hplain (x : Except Error Value) : x.map (formatted s none) = x := by
    cases x <;> rfl
  simp only [Surroundings.value, hcontent, Surroundings.outcome, hbody, hformula]
  exact congrArg orErrorText (hplain _)

/-- Cells each of which reads another of them as a first cell have the texts of errors. -/
theorem isErrorText_of_readers {C : Set Place}
    (hC : ∀ c ∈ C, ∃ d ∈ C, Reads s.registry s.host .first c d) (held : List String) {c : Place}
    (hc : c ∈ C) : (s.value (guarded s b held) c.sheet c.row c.column).IsErrorText := by
  induction hfree : b.freeKeys held using Nat.strong_induction_on generalizing held c with
  | _ n ih =>
    obtain ⟨d, hd, hreads⟩ := hC c hc
    cases hreads with
    | @first c r i hr hi =>
      obtain ⟨e, he, hr⟩ := exists_tree_of_mem_readsAt hr
      rw [value_of_treeAt? hs he]
      apply isErrorText_orErrorText
      apply spoilt_settled _ _ hr
      intro v hv
      rw [guarded_eq hs] at hv
      obtain ⟨j, value, hj, hvalue, rfl⟩ := answering_cell_eq_ok.1 hv
      obtain rfl : i = j := Except.ok.inj (hi.symm.trans hj)
      obtain ⟨hkey, rfl⟩ := entering_eq_ok.1 hvalue
      have hlt := Workbook.freeKeys_cons_lt (keyOf_mem_keys hs i r.range) (by simpa using hkey)
      exact ih _ (hfree ▸ hlt) _ hd rfl

end

/-- The cells that lead to a cell on a cycle read each other. -/
theorem exists_reads_of_cycle {α : Type} {r : α → α → Prop} {c : α}
    (hcycle : Relation.TransGen r c c) :
    ∀ d ∈ {d | Relation.TransGen r d c}, ∃ d' ∈ {d | Relation.TransGen r d c}, r d d' := by
  intro d hd
  obtain ⟨d', hstep, hrest⟩ := Relation.TransGen.head'_iff.1 hd
  refine ⟨d', ?_, hstep⟩
  rcases Relation.reflTransGen_iff_eq_or_transGen.1 hrest with rfl | hrest
  · exact hcycle
  · exact hrest

/-! ## Engines -/

/-- A text is displayed as it is. -/
theorem display_text (text format : String) : (Value.text text).display format = text := by
  unfold Value.display
  split
  · rfl
  · rw [if_neg (by simp [Value.isNumber, Value.raw])]
    rfl

theorem isErrorText_shown {h : Host} (hrender : h.render = Value.display)
    (sheet row column : Nat) (display : Bool) {v : Value} (hv : v.IsErrorText) :
    (shown h sheet row column display v).IsErrorText := by
  obtain ⟨message, rfl⟩ := hv
  refine ⟨message, ?_⟩
  generalize "Error: " ++ message = text
  cases display with
  | false => rfl
  | true =>
    cases hformat : h.format? sheet row column with
    | none =>
      simp only [shown, hformat, if_true]
      rfl
    | some format => simp only [shown, hformat, hrender, display_text, if_true]

/-- A cell is the text of an error when its formula leads back to it through first cells. -/
theorem Reached.isErrorText_of_cycle {settings : Settings} {fs : List Function} {e : Engine}
    (he : Reached settings fs e) {b : Workbook} {c : Place}
    (hcycle : Relation.TransGen (Reads e.registry b.host .first) c c) (display : Bool) :
    (e.cellValue b.host c.sheet c.row c.column display).1.IsErrorText := by
  rw [(he.atRest.1.cellValue b.host_knowsNoNames c.sheet c.row c.column display).1]
  apply isErrorText_shown rfl
  rw [value, answersAt_keyBound (b := b) rfl]
  exact isErrorText_of_readers (s := ⟨e.registry, {}, b.host⟩) rfl (exists_reads_of_cycle hcycle) []
    hcycle

/-- Two cells that refer to each other. -/
def entangled : Workbook where
  sheets := [
    { name := "a"
      cells := [
        ((0, 0), { content := .formula "=B1+1" }),
        ((0, 1), { content := .formula "=SUM(A1*2,7)" })] }]

/-- Both cells refer to the other in arithmetic, one of them inside a function. -/
theorem Reached.isErrorText_of_cycle_of_two :
    let e := Engine.new {}
    let c : Place := ⟨0, 0, 0⟩
    Reached {} [] e ∧ Relation.TransGen (Reads e.registry entangled.host .first) c c ∧
      (e.cellValue entangled.host 0 0 0 false).1.IsErrorText := by
  intro e c
  let d : Place := ⟨0, 0, 1⟩
  let r : Reference := ⟨⟨0, 1, 0, 1, by decide, by decide, by decide, by decide⟩, none⟩
  let t : Reference := ⟨⟨0, 0, 0, 0, by decide, by decide, by decide, by decide⟩, none⟩
  have hr : (r, Extent.first) ∈ readsAt .standard entangled.host c := by decide +kernel
  have ht : (t, Extent.first) ∈ readsAt .standard entangled.host d := by decide +kernel
  have hthere : Reads .standard entangled.host .first c d := .first hr rfl
  have hback : Reads .standard entangled.host .first d c := .first ht rfl
  have hcycle : Relation.TransGen (Reads .standard entangled.host .first) c c :=
    .tail (.single hthere) hback
  have he : Reached {} [] e := .new
  exact ⟨he, hcycle, Reached.isErrorText_of_cycle he hcycle false⟩

/-! ## Lost errors -/

/-- The formula of a cell reads another cell, in whatever way. -/
def Follows (b : Workbook) (c d : Place) : Prop := ∃ x, Reads .standard b.host x c d

/-- A sum over a range in which it stands itself, beside a number. -/
def totalled : Workbook where
  sheets := [
    { name := "a"
      cells := [
        ((0, 0), { content := .formula "=SUM(A1:A2)" }), ((1, 0), { content := .number 5.0 })] }]

/-- A cell on a cycle need not be the text of an error where the cycle leads through ranges that
functions reduce, even if all formulas are built from operations and functions that compute all
their arguments. -/
theorem not_isErrorText_of_cycle :
    ¬ ∀ (b : Workbook) (c : Place), NamesDistinct b →
      (∀ d formula, Relation.ReflTransGen (Follows b) c d →
        b.host.content d.sheet d.row d.column = .formula formula →
          (treeAt? .standard b.host d).any Expr.isPlain = true) →
      Relation.TransGen (Follows b) c c →
      ((Engine.new {}).cellValue b.host c.sheet c.row c.column false).1.IsErrorText := by
  intro h
  have hplain : (treeAt? .standard totalled.host ⟨0, 0, 0⟩).any Expr.isPlain = true := by
    decide +kernel
  let r : Reference := ⟨⟨0, 0, 1, 0, by decide, by decide, by decide, by decide⟩, none⟩
  have hr : (r, Extent.all) ∈ readsAt .standard totalled.host ⟨0, 0, 0⟩ := by decide +kernel
  have hself : Follows totalled ⟨0, 0, 0⟩ ⟨0, 0, 0⟩ := ⟨.all, .all hr rfl (by decide)⟩
  have hvalue : ((Engine.new {}).cellValue totalled.host 0 0 0 false).1 = .number 5.0 := by
    decide +kernel
  have hall (d : Place) (formula : String)
      (hcontent : totalled.host.content d.sheet d.row d.column = .formula formula) :
      (treeAt? .standard totalled.host d).any Expr.isPlain = true := by
    obtain ⟨w, cell, hw, hmem, hcell⟩ := exists_cell_of_content hcontent nofun
    obtain ⟨sheet, row, column⟩ := d
    cases sheet with
    | succ i => cases hw
    | zero =>
      cases hw
      simp only [List.mem_cons, List.not_mem_nil, or_false, Prod.mk.injEq] at hmem
      obtain ⟨⟨rfl, rfl⟩, -⟩ | ⟨-, rfl⟩ := hmem
      · exact hplain
      · cases hcell
  obtain ⟨message, hmessage⟩ :=
    h totalled ⟨0, 0, 0⟩ (List.nodup_singleton _) (fun d formula _ => hall d formula)
      (.single hself)
  rw [hvalue] at hmessage
  cases hmessage

end Spreadsheet.Engine
