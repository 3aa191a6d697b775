import Spreadsheet.Proofs.Engine.Caching
import Spreadsheet.Proofs.Evaluation.Leaks

/-!
# Results without NaN

An engine reports arithmetic without a defined value as an error, but not all of
it.  The functions that add or multiply the numbers of a list do not look at what
they have computed, so the sum of two infinite numbers with different signs is a
result (`isUndefined_sum_of_infinite`).  A number in a formula is divided by a
power of ten for its places, and is NaN where its digits and that power are both
too large.

There are no other ways.  From a workbook without NaN, no text has the result NaN
unless NaN leaks from a formula that is computed on the way
(`Reached.isUndefined_eq_false`).  A formula leads to the formulas in the ranges
that it asks for (`LeadsTo`), each with one more key held, so the proof goes by
induction on the number of keys that can still be held.
-/

namespace Spreadsheet.Engine

open Spreadsheet.Evaluation
open Spreadsheet.Formula (Error Expr Function Reference)
open Spreadsheet.Grid (Workbook)

/-! ## Formulas -/

/-- A lost program gives nothing under any answers. -/
theorem not_under_eq_ok_of_lost {α : Type} {p : Program α} (h : p.Lost) (q : Answers) (a : α) :
    p.under q ≠ .ok a := by
  induction p with
  | done b => exact h.elim
  | fail e =>
    intro ha
    cases ha
  | readCell r next ih =>
    simp only [Program.under]
    split
    next v _ => exact ih v (h v)
    next =>
      intro ha
      cases ha
  | readCells r hidden next ih =>
    simp only [Program.under]
    split
    next vs _ => exact ih vs (h vs)
    next =>
      intro ha
      cases ha

/-- The value of a tree that does not leak is defined. -/
theorem settled_defined {c : Context} (hdraw : c.draw.isNaN = false) {q : Answers}
    (hq : q.AreDefined) {e : Expr} (h : e.leaks c q = false) : (settled c e).Defined q := by
  apply Program.Yields.bind (argumentOf_defined hdraw hq e h)
  intro v hv
  cases v with
  | reference r => exact .cell hq r
  | _ => exact .done hv

section

variable {s : Surroundings} (hs : s.host.KnowsNoNames) (hdraw : s.host.draw.isNaN = false)
include hs hdraw

/-- The value of a formula is defined when its tree does not leak and what it asks for is defined. -/
theorem formula_defined {o : Options} {body : String} {q : Answers}
    (hleaks : ∀ e, Formula.parse s.registry body = .ok e → e.leaks (s.context o) q = false)
    (hasks : ∀ r, (s.formula (s.context o) body).Asks q r → q.DefinedAt r) :
    (s.formula (s.context o) body).Defined q where
  of_under {v} hv := by
    rw [← Program.under_defined hasks, Surroundings.formula] at hv
    have hparse := parse_lost hs (s.context o) body
    cases htree : Formula.parse s.registry body with
    | ok e =>
      rw [parse_eq_done hs _ htree, Program.bind_eq, Program.done_bind] at hv
      have hdefined : (settled (s.context o) e).Defined q.defined :=
        settled_defined (c := s.context o) hdraw q.defined_areDefined
          (leaks_defined _ e (hleaks e htree))
      exact hdefined.of_under hv
    | error e =>
      rw [htree] at hparse
      have hlost : (s.parse (s.context o) body).Lost := hparse
      exact absurd hv (not_under_eq_ok_of_lost (hlost.bind _) _ v)

end

/-! ## On the way to an outcome -/

/-- The formulas that are computed on the way to the outcome of a text, with the number of keys that
can still be held and the keys that are held meanwhile. -/
inductive LeadsTo (s : Surroundings) (text : String) (o : Options) :
    Nat → List String → String → Options → Prop where
  /-- The text itself is computed first. -/
  | itself : LeadsTo s text o (keyBound s.host) [] text o
  /-- A formula asks for a range, and a cell of the range holds another formula. -/
  | asked {n held text' o' body r i row column formula} :
    LeadsTo s text o (n + 1) held text' o' → formulaBody? text' = some body →
      (s.formula (s.context o') body).Asks
        (answersAt s (n + 1) held (o'.sheet.getD s.host.selected)) r →
      sheetOf s.host (o'.sheet.getD s.host.selected) r = .ok i → keyOf s.host i r.range ∉ held →
      r.range.contains row column = true → s.host.content i row column = .formula formula →
      LeadsTo s text o n (keyOf s.host i r.range :: held) formula (cellOptions i row column)

/-- NaN leaks from none of the formulas on the way to the outcome of a text. -/
def LeakFree (s : Surroundings) (text : String) (o : Options) : Prop :=
  ∀ n held text' o' body e, LeadsTo s text o n held text' o' → formulaBody? text' = some body →
    Formula.parse s.registry body = .ok e →
      e.leaks (s.context o') (answersAt s n held (o'.sheet.getD s.host.selected)) = false

/-- No cell holds NaN. -/
def DefinedCells (h : Host) : Prop :=
  ∀ i row column x, h.content i row column = .number x → x.isNaN = false

/-- No cell of a workbook holds NaN when none of those that are stored does. -/
theorem definedCells_of_cells {b : Workbook}
    (h : ∀ w ∈ b.sheets, ∀ cell ∈ w.cells, (Value.ofContent cell.2.content).isUndefined = false) :
    DefinedCells b.host := by
  intro i row column x hx
  obtain ⟨w, cell, hw, hmem, hcell⟩ := exists_cell_of_content hx nofun
  have hdefined := h w (List.mem_of_getElem? hw) _ hmem
  rw [hcell] at hdefined
  exact hdefined

theorem isUndefined_formatted {s : Surroundings} {format : Option String} {v : Value}
    (h : v.isUndefined = false) : (formatted s format v).isUndefined = false := by
  obtain heq | ⟨t, heq⟩ := formatted_eq_or s format v
  · rwa [heq]
  · rw [heq]
    rfl

/-- Answers for a range are defined when the cells of the range are. -/
theorem definedAt_answersAt {s : Surroundings} {n : Nat} {held : List String} {sheet : Nat}
    {r : Reference}
    (h : ∀ {i row column}, sheetOf s.host sheet r = .ok i → keyOf s.host i r.range ∉ held →
      r.range.contains row column = true →
        (s.value (answersAt s n (keyOf s.host i r.range :: held)) i row column).isUndefined =
          false) :
    (answersAt s (n + 1) held sheet).DefinedAt r where
  cell {v} hv := by
    obtain ⟨i, value, hi, hvalue, rfl⟩ := answering_cell_eq_ok.1 hv
    obtain ⟨hkey, rfl⟩ := entering_eq_ok.1 hvalue
    exact h hi hkey (Grid.Range.contains_first r.range)
  cells {hidden vs} hvs := by
    simp only [answersAt, answering, Program.bind_eq_ok] at hvs
    obtain ⟨i, hi, hvs⟩ := hvs
    split at hvs
    · cases hvs
    · obtain ⟨value, hvalue, hvs⟩ := Program.bind_eq_ok.1 hvs
      obtain ⟨hkey, rfl⟩ := entering_eq_ok.1 hvalue
      cases hvs
      intro v hv
      obtain ⟨cell, hcell, rfl⟩ := List.mem_map.1 hv
      rw [Value.isUndefined_raw]
      exact h hi hkey (mem_cellsToRead hcell)

/-- Nothing leaks on the way when NaN does not leak from the text, and the formulas in cells end in
checks. -/
theorem leakFree_of_isChecked {s : Surroundings} {text : String} {o : Options}
    (htext : ∀ body e, formulaBody? text = some body → Formula.parse s.registry body = .ok e →
      e.leaks (s.context o)
        (answersAt s (keyBound s.host) [] (o.sheet.getD s.host.selected)) = false)
    (hcells : ∀ i row column formula body e, s.host.content i row column = .formula formula →
      formulaBody? formula = some body → Formula.parse s.registry body = .ok e →
        e.isChecked = true) :
    LeakFree s text o := by
  intro n held text' o' body e h hbody he
  cases h with
  | itself => exact htext body e hbody he
  | asked _ _ _ _ _ _ hformula =>
    exact leaks_of_isChecked _ _ e (hcells _ _ _ _ body e hformula hbody he)

section

variable {s : Surroundings} (hs : s.host.KnowsNoNames) (hdraw : s.host.draw.isNaN = false)
  {text : String} {o : Options} (hfree : LeakFree s text o)
include hs hdraw hfree

/-- The outcome of a formula on the way is defined when what it asks for is defined. -/
theorem isUndefined_outcome_of_asks {n : Nat} {held : List String} {text' : String} {o' : Options}
    (h : LeadsTo s text o n held text' o')
    (hasks : ∀ body r, formulaBody? text' = some body →
      (s.formula (s.context o') body).Asks
        (answersAt s n held (o'.sheet.getD s.host.selected)) r →
      (answersAt s n held (o'.sheet.getD s.host.selected)).DefinedAt r)
    {v : Value} (hv : s.outcome (answersAt s n held) text' o' = .ok v) :
    v.isUndefined = false := by
  unfold Surroundings.outcome at hv
  split at hv
  next =>
    cases hv
    rfl
  next body hbody =>
    have hdefined := formula_defined hs hdraw
      (fun e he => hfree n held text' o' body e h hbody he) fun r => hasks body r hbody
    cases hx : (s.formula (s.context o') body).under
        (answersAt s n held (o'.sheet.getD s.host.selected)) with
    | error e =>
      rw [hx] at hv
      cases hv
    | ok w =>
      rw [hx] at hv
      cases hv
      exact isUndefined_formatted (hdefined.of_under hx)

/-- Without leaks, the outcomes of all formulas on the way are defined. -/
theorem isUndefined_outcome (hcells : DefinedCells s.host) {n : Nat} {held : List String}
    {text' : String} {o' : Options} (h : LeadsTo s text o n held text' o') {v : Value}
    (hv : s.outcome (answersAt s n held) text' o' = .ok v) : v.isUndefined = false := by
  induction n generalizing held text' o' v with
  | zero =>
    -- Without keys that can be held all requests are refused.
    exact isUndefined_outcome_of_asks hs hdraw hfree h (fun _ _ _ _ => ⟨nofun, nofun⟩) hv
  | succ n ih =>
    apply isUndefined_outcome_of_asks hs hdraw hfree h _ hv
    intro body r hbody hasks
    apply definedAt_answersAt
    intro i row column hi hkey hcell
    unfold Surroundings.value
    split
    next formula hformula =>
      have hthere := LeadsTo.asked h hbody hasks hi hkey hcell hformula
      cases hx : s.outcome (answersAt s n (keyOf s.host i r.range :: held)) formula
          (cellOptions i row column) with
      | ok w => exact ih hthere hx
      | error e => rfl
    next => exact Value.isUndefined_ofContent (hcells i row column)

end

/-! ## Engines -/

/-- No undefined number escapes where nothing leaks.  Whatever has been computed before, from a
workbook without NaN a text has no result that is NaN, with a format or without, if NaN leaks from
none of the formulas on the way. -/
theorem Reached.isUndefined_eq_false {settings : Settings} {fs : List Function} {e : Engine}
    (he : Reached settings fs e) {h : Host} (hh : h.KnowsNoNames) (hdraw : h.draw.isNaN = false)
    (hcells : DefinedCells h) {text : String} {o : Options}
    (hfree : LeakFree (e.surroundings h) text o) {v : Value}
    (hv : (e.tryEvaluate h text o).1 = .ok v) : v.isUndefined = false := by
  obtain ⟨hrest, -⟩ := he.atRest
  have hfits := fits_of_knowsNoNames (s := e.surroundings h) hh
  rw [tryEvaluate_eq_of_sound hfits hrest.sound trivial, hrest.held] at hv
  exact isUndefined_outcome (s := e.surroundings h) hh hdraw hfree hcells .itself hv

/-- A cell with an infinite number above another number. -/
def infinite : Workbook where
  sheets := [
    { name := "a"
      cells := [((0, 0), { content := .formula "=1/0" }), ((1, 0), { content := .number 1.0 })] }]

theorem formula_infinite {i row column : Nat} {formula : String}
    (h : infinite.host.content i row column = .formula formula) : formula = "=1/0" := by
  obtain ⟨w, cell, hw, hmem, hcell⟩ := exists_cell_of_content h nofun
  cases i with
  | zero =>
    cases hw
    simp only [List.mem_cons, List.not_mem_nil, or_false, Prod.mk.injEq] at hmem
    obtain ⟨-, rfl⟩ | ⟨-, rfl⟩ := hmem
    · cases hcell
      rfl
    · cases hcell
  | succ i => cases hw

/-- What is computed of the tree of a formula is so of any tree that parsing gives. -/
theorem apply_of_parse {registry : Formula.Registry} {body : String} {f : Expr → Bool} {b : Bool}
    (h : (Formula.parse registry body).toOption.map f = some b) {e : Expr}
    (he : Formula.parse registry body = .ok e) : f e = b := by
  rw [he] at h
  exact Option.some.inj h

theorem leakFree_infinite : LeakFree ⟨.standard, {}, infinite.host⟩ "=SUM(A1:A2)" {} := by
  have htext : formulaBody? "=SUM(A1:A2)" = some "SUM(A1:A2)" := by decide +kernel
  have hcell : formulaBody? "=1/0" = some "1/0" := by decide +kernel
  apply leakFree_of_isChecked
  · intro body e hbody he
    obtain rfl := Option.some.inj (htext.symm.trans hbody)
    exact apply_of_parse (by decide +kernel) he
  · intro i row column formula body e hformula hbody he
    obtain rfl := formula_infinite hformula
    obtain rfl := Option.some.inj (hcell.symm.trans hbody)
    exact apply_of_parse (by decide +kernel) he

/-- The sum over the cells is infinite, but it is defined. -/
theorem Reached.isUndefined_eq_false_of_infinite :
    let h := infinite.host
    let e := Engine.new {}
    Reached {} [] e ∧ h.KnowsNoNames ∧ h.draw.isNaN = false ∧ DefinedCells h ∧
      LeakFree (e.surroundings h) "=SUM(A1:A2)" {} ∧
      (e.tryEvaluate h "=SUM(A1:A2)" {}).1 = .ok (.number (1.0 / 0.0)) ∧
      (Value.number (1.0 / 0.0)).isUndefined = false := by
  intro h e
  have hh : h.KnowsNoNames := infinite.host_knowsNoNames
  have hdraw : h.draw.isNaN = false := by decide +kernel
  have hcells : DefinedCells h := definedCells_of_cells (by decide +kernel)
  have hvalue : (e.tryEvaluate h "=SUM(A1:A2)" {}).1 = .ok (.number (1.0 / 0.0)) := by
    decide +kernel
  have hreached : Reached {} [] e := .new
  exact ⟨hreached, hh, hdraw, hcells, leakFree_infinite, hvalue,
    hreached.isUndefined_eq_false hh hdraw hcells leakFree_infinite hvalue⟩

/-- The sum of two infinite numbers with different signs is NaN, and no error. -/
theorem isUndefined_sum_of_infinite :
    let h := Workbook.new.host
    DefinedCells h ∧
      ((Engine.new {}).tryEvaluate h "=SUM(1/0,-1/0)" {}).1 = .ok (.number Value.nan) ∧
      (Value.number Value.nan).isUndefined = true :=
  ⟨definedCells_of_cells (by decide +kernel), by decide +kernel, by decide +kernel⟩

end Spreadsheet.Engine
