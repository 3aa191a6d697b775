import Spreadsheet.Proofs.Engine.Constants
import Spreadsheet.Proofs.Engine.Dependencies
import Spreadsheet.Proofs.Grid.Sheets

/-!
# The selected sheet after a removal

The selection is a position, and it stays the same position when another sheet is
removed, unless that would be behind the last one.  So the selected sheet stays selected
when a sheet behind it is removed, and when it is the last one itself, but not when
it is neither the last one nor before the other: then the next sheet takes its
place (`Grid.Workbook.selectedSheet?_remove`).

A formula whose references name no sheet is computed on the selected one.  Where
they cover constants only, its result depends on that sheet and on nothing else
(`Reached.tryEvaluate_eq_of_selectedSheet?`).
-/

namespace Spreadsheet

/-! ## Positions -/

namespace Grid.Workbook

variable {b b' : Workbook} {i : Nat} {w : Worksheet}

/-- The selected sheet, if there is one. -/
def selectedSheet? (b : Workbook) : Option Worksheet := b.sheets[b.selected]?

/-- Whether the selected sheet lies before another one or is the last one. -/
def KeepsSelected (b : Workbook) (i : Nat) : Prop :=
  b.selected < i ∨ b.selected + 1 = b.sheets.length

theorem remove_eq_ok (hrun : InPlace.remove i b = .ok w b') :
    i < b.sheets.length ∧ b' = { b with sheets := b.sheets.eraseIdx i }.clampSelection := by
  rw [InPlace.remove_run] at hrun
  cases hw : b.sheets[i]? with
  | none =>
    rw [hw] at hrun
    cases hrun
  | some w =>
    rw [hw] at hrun
    cases hrun
    exact ⟨(List.getElem?_eq_some_iff.1 hw).1, rfl⟩

theorem selected_lt (hb : b.InOrder) (hi : i < b.sheets.length) : b.selected < b.sheets.length := by
  have := hb.selected
  omega

/-- After the removal of another sheet the selected sheet is the same one, where it is kept, or the
next one. -/
theorem selectedSheet?_remove (hb : b.InOrder) (hrun : InPlace.remove i b = .ok w b')
    (hne : i ≠ b.selected) :
    (b.KeepsSelected i → b'.selectedSheet? = b.selectedSheet?) ∧
      (¬ b.KeepsSelected i → b'.selectedSheet? = b.sheets[b.selected + 1]?) := by
  obtain ⟨hi, rfl⟩ := remove_eq_ok hrun
  have hlength := List.length_eraseIdx_of_lt hi
  have hselected := selected_lt hb hi
  by_cases hclamp : b.sheets.length - 1 ≤ b.selected
  · -- The selected sheet is the last one, so the other one lies before it and it moves one down.
    have hlast : b.selected + 1 = b.sheets.length := by omega
    have hbefore : ¬ b.sheets.length - 1 - 1 < i := by omega
    have hmoved : b.sheets.length - 1 - 1 + 1 = b.selected := by omega
    refine ⟨fun _ => ?_, fun hnot => absurd (.inr hlast) hnot⟩
    simp only [clampSelection, hlength, hclamp, if_true, selectedSheet?, List.getElem?_eraseIdx,
      hbefore, if_false, hmoved]
  · have hlast : b.selected + 1 ≠ b.sheets.length := by omega
    simp only [clampSelection, hlength, hclamp, if_false, selectedSheet?, List.getElem?_eraseIdx]
    constructor
    · rintro (hbefore | hend)
      · exact if_pos hbefore
      · exact absurd hend hlast
    · exact fun hnot => if_neg fun hbefore => hnot (.inl hbefore)

/-- Two sheets of a workbook in order are not the same. -/
theorem InOrder.getElem?_inj (hb : b.InOrder) {j : Nat} (hi : i < b.sheets.length)
    (h : b.sheets[i]? = b.sheets[j]?) : i = j := by
  have hnames : b.names[i]? = b.names[j]? := by
    rw [names, List.getElem?_map, List.getElem?_map, h]
  exact (List.getElem?_inj (by rwa [length_names]) hb.nodup).1 hnames

/-- The selected sheet is the same one only where it is kept. -/
theorem selectedSheet?_remove_iff (hb : b.InOrder) (hrun : InPlace.remove i b = .ok w b')
    (hne : i ≠ b.selected) : b'.selectedSheet? = b.selectedSheet? ↔ b.KeepsSelected i := by
  obtain ⟨hkept, hnext⟩ := selectedSheet?_remove hb hrun hne
  refine ⟨fun hsame => ?_, hkept⟩
  by_contra hnot
  have hselected := selected_lt hb (remove_eq_ok hrun).1
  rw [hnext hnot] at hsame
  exact absurd (hb.getElem?_inj hselected hsame.symm) (by omega)

end Grid.Workbook

/-! ## Formulas on the selected sheet -/

namespace Engine

open Spreadsheet.Evaluation
open Spreadsheet.Formula (Reference)
open Spreadsheet.Grid (Range Workbook)

/-- The references of a text name no sheet, and on the selected one they cover no formulas. -/
def ReadsConstants (b : Workbook) (text : String) : Prop :=
  ∀ body, formulaBody? text = some body → ∀ r ∈ Formula.references .standard body, r.sheet = none ∧
    ∀ row column, r.range.contains row column = true →
      ∀ formula, b.host.content b.selected row column ≠ .formula formula

/-- What the formula of such a text asks for names no sheet and covers no formulas. -/
theorem ReadsConstants.of_scope {b : Workbook} {text body : String} (h : ReadsConstants b text)
    (hbody : formulaBody? text = some body) {r : Reference}
    (hr : (formulaScope .standard body).has r) :
    r.sheet = none ∧ ∀ row column, r.range.contains row column = true →
      ∀ formula, b.host.content b.selected row column ≠ .formula formula := by
  obtain ⟨written, hwritten, hsheet, hwithin⟩ := hr
  obtain ⟨hnone, hcontent⟩ := h body hbody written hwritten
  exact ⟨hsheet.trans hnone, fun row column hcell =>
    hcontent row column (hwithin.contains hcell)⟩

section

variable {b b' : Workbook} (hsheet : b'.selectedSheet? = b.selectedSheet?)
include hsheet

/-- Two workbooks with the same selected sheet are answered alike on what stands on it. -/
theorem answers_alike_of_selectedSheet? (registry : Formula.Registry) {r : Reference}
    (hr : r.sheet = none)
    (hcontent : ∀ row column, r.range.contains row column = true →
      ∀ formula, b.host.content b.selected row column ≠ .formula formula) :
    (answers registry b.host b.selected).cell r = (answers registry b'.host b'.selected).cell r ∧
      ∀ hidden, (answers registry b.host b.selected).cells r hidden =
        (answers registry b'.host b'.selected).cells r hidden := by
  have hsheet : b'.sheets[b'.selected]? = b.sheets[b.selected]? := hsheet
  have hcontents : b'.host.content b'.selected = b.host.content b.selected := by
    simp only [Workbook.host, hsheet]
  have hrows : b'.host.rows b'.selected = b.host.rows b.selected := by
    simp only [Workbook.host, hsheet]
  have hcolumns : b'.host.columns b'.selected = b.host.columns b.selected := by
    simp only [Workbook.host, hsheet]
  have hi : sheetOf b.host b.selected r = .ok b.selected := sheetOf_of_none hr
  have hi' : sheetOf b'.host b'.selected r = .ok b'.selected := sheetOf_of_none hr
  refine ⟨?_, fun hidden => ?_⟩
  · have hfirst := hcontent _ _ (Range.contains_first r.range)
    rw [answers_cell registry hi hfirst, answers_cell registry hi' (by rwa [hcontents]), hcontents]
  · by_cases hout : b.host.rows b.selected ≤ r.range.bottom ∨
        b.host.columns b.selected ≤ r.range.right
    · rw [answers_cells_outside registry hi hout,
        answers_cells_outside registry hi' (by rwa [hrows, hcolumns])]
    · have hconstants : Constants b.host b.selected r.range := ⟨by omega, by omega, hcontent⟩
      have hconstants' : Constants b'.host b'.selected r.range :=
        ⟨by rw [hrows]; omega, by rw [hcolumns]; omega, by rwa [hcontents]⟩
      rw [hconstants.answers_cells registry hi, hconstants'.answers_cells registry hi']
      simp only [valuesOf, cellsToRead, Workbook.host, hsheet]

/-- Nothing that such a text asks for is answered differently. -/
theorem ReadsConstants.agreeOn {text body : String} (h : ReadsConstants b text)
    (hbody : formulaBody? text = some body) :
    Answers.AgreeOn (formulaScope .standard body) (answers .standard b.host b.selected)
      (answers .standard b'.host b'.selected) where
  cell hr :=
    (answers_alike_of_selectedSheet? hsheet _ (h.of_scope hbody hr).1 (h.of_scope hbody hr).2).1
  cells hr :=
    (answers_alike_of_selectedSheet? hsheet _ (h.of_scope hbody hr).1 (h.of_scope hbody hr).2).2 _

end

/-- Without a sheet of its own a text is computed under the answers for the selected one. -/
theorem outcome_of_unaddressed (registry : Formula.Registry) (h : Host) (text : String)
    {o : Options} (ho : o.sheet = none) :
    outcome registry h text o =
      Surroundings.outcome ⟨registry, {}, h⟩ (fun _ => answers registry h h.selected) text
        { o with sheet := some 0 } := by
  simp only [outcome, Surroundings.outcome, answers, ho, Option.getD_none]
  rfl

theorem outcome_eq_of_selectedSheet? {b b' : Workbook}
    (hsheet : b'.selectedSheet? = b.selectedSheet?) {text : String} (htext : ReadsConstants b text)
    {o : Options} (ho : o.sheet = none) :
    outcome .standard b.host text o = outcome .standard b'.host text o := by
  have hresults : (answers .standard b.host b.selected).AreResults :=
    answersAt_areResults (s := ⟨.standard, {}, b.host⟩) b.host_knowsNoNames rfl _ _ _
  rw [outcome_of_unaddressed _ _ _ ho, outcome_of_unaddressed _ _ _ ho]
  apply outcome_eq_of_agree rfl
  · exact hresults
  · exact fun body hbody => htext.agreeOn hsheet hbody

/-- A text that reads constants of the selected sheet gives the same in all workbooks with this
sheet. -/
theorem Reached.tryEvaluate_eq_of_selectedSheet? {settings settings' : Settings} {e e' : Engine}
    (he : Reached settings [] e) (he' : Reached settings' [] e') {b b' : Workbook}
    (hsheet : b'.selectedSheet? = b.selectedSheet?) {text : String} (htext : ReadsConstants b text)
    {o : Options} (ho : o.sheet = none) :
    (e'.tryEvaluate b'.host text o).1 = (e.tryEvaluate b.host text o).1 := by
  obtain ⟨hrest, hregistry⟩ := he.atRest
  obtain ⟨hrest', hregistry'⟩ := he'.atRest
  rw [(hrest.tryEvaluate b.host_knowsNoNames text o).1,
    (hrest'.tryEvaluate b'.host_knowsNoNames text o).1, hregistry, hregistry']
  exact (outcome_eq_of_selectedSheet? hsheet htext ho).symm

/-- A sheet that exists can be removed.  The selected sheet, if it is another one, stays selected,
and with it the results of formulas that read constants on it, where it lies before the one that is
removed or is the last one.  Elsewhere the sheet behind it is selected. -/
theorem selectedSheet?_after_remove {b : Workbook} (hb : Grid.Workbook.Reached b) {i : Nat}
    (hi : i < b.sheets.length) (hne : i ≠ b.selected) :
    ∃ w b', Workbook.InPlace.remove i b = .ok w b' ∧ b.sheets[i]? = some w ∧
      (b'.selectedSheet? = b.selectedSheet? ↔ b.KeepsSelected i) ∧
      (b.KeepsSelected i →
        ∀ {settings settings' : Settings} {e e' : Engine}, Reached settings [] e →
          Reached settings' [] e' → ∀ {text : String}, ReadsConstants b text →
          ∀ {o : Options}, o.sheet = none →
            (e'.tryEvaluate b'.host text o).1 = (e.tryEvaluate b.host text o).1) ∧
      (¬ b.KeepsSelected i → b'.selectedSheet? = b.sheets[b.selected + 1]?) := by
  have horder := hb.inOrder
  have hw := List.getElem?_eq_getElem hi
  have hrun := Workbook.InPlace.remove_run i b
  rw [hw] at hrun
  obtain ⟨hkept, hnext⟩ := Workbook.selectedSheet?_remove horder hrun hne
  exact ⟨_, _, hrun, hw, Workbook.selectedSheet?_remove_iff horder hrun hne,
    fun hkeeps _ _ _ _ he he' _ htext _ ho =>
      Reached.tryEvaluate_eq_of_selectedSheet? he he' (hkept hkeeps) htext ho, hnext⟩

/-- Three sheets with a number each, of which the second one is selected. -/
def numbered : Workbook where
  sheets := [
    { name := "Sheet1", cells := [((0, 0), { content := .number 1.0 })] },
    { name := "b", cells := [((0, 0), { content := .number 2.0 })] },
    { name := "c", cells := [((0, 0), { content := .number 3.0 })] }]
  selected := 1

theorem reached_numbered : Grid.Workbook.Reached numbered := by
  have h := (((((Grid.Workbook.Reached.new.step (.addNamed "b")).step (.addNamed "c")).step
    (.edit 0 (.setContentAt "A1" (.number 1.0)))).step
    (.edit 1 (.setContentAt "A1" (.number 2.0)))).step
    (.edit 2 (.setContentAt "A1" (.number 3.0)))).step (.select 1)
  exact (congrArg Grid.Workbook.Reached (by decide +kernel)).mp h

/-- The first cell is a constant. -/
theorem readsConstants_numbered : ReadsConstants numbered "=A1" := by
  intro body hbody r hr
  have hwritten : formulaBody? "=A1" = some "A1" := by decide +kernel
  obtain rfl : "A1" = body := Option.some.inj (hwritten.symm.trans hbody)
  have hfirst : ∀ r ∈ Formula.references .standard "A1", r.sheet = none ∧ r.range.top = 0 ∧
      r.range.bottom = 0 ∧ r.range.left = 0 ∧ r.range.right = 0 := by decide +kernel
  obtain ⟨hsheet, htop, hbottom, hleft, hright⟩ := hfirst r hr
  refine ⟨hsheet, fun row column hcell formula hformula => ?_⟩
  rw [Range.contains_iff] at hcell
  obtain rfl : row = 0 := by omega
  obtain rfl : column = 0 := by omega
  cases hformula

/-- Without the third sheet the second one is still selected. -/
theorem selectedSheet?_after_remove_numbered :
    let e := Engine.new {}
    let result (b : Workbook) := (e.tryEvaluate b.host "=A1" {}).1
    Reached {} [] e ∧ Grid.Workbook.Reached numbered ∧ numbered.KeepsSelected 2 ∧
      ReadsConstants numbered "=A1" ∧
      ∃ w b', Workbook.InPlace.remove 2 numbered = .ok w b' ∧
        b'.selectedSheet? = numbered.selectedSheet? ∧ result b' = result numbered ∧
        result numbered = .ok (.number 2.0) := by
  intro e result
  have he : Reached {} [] e := .new
  have hkeeps : numbered.KeepsSelected 2 := .inl (by decide)
  obtain ⟨w, b', hrun, -, hiff, hsame, -⟩ :=
    selectedSheet?_after_remove reached_numbered (i := 2) (by decide) (by decide)
  exact ⟨he, reached_numbered, hkeeps, readsConstants_numbered, w, b', hrun, hiff.2 hkeeps,
    hsame hkeeps he he readsConstants_numbered rfl, by decide +kernel⟩

/-- Without the first sheet the third one is selected instead of the second one, and a formula that
reads a constant of the selected sheet gives another number. -/
theorem selection_moves_numbered :
    let e := Engine.new {}
    let result (b : Workbook) := (e.tryEvaluate b.host "=A1" {}).1
    Grid.Workbook.Reached numbered ∧ 0 < numbered.sheets.length ∧ 0 ≠ numbered.selected ∧
      ReadsConstants numbered "=A1" ∧
      ∃ w b', Workbook.InPlace.remove 0 numbered = .ok w b' ∧
        b'.selectedSheet?.map (·.name) = some "c" ∧
        numbered.selectedSheet?.map (·.name) = some "b" ∧
        result b' = .ok (.number 3.0) ∧ result numbered = .ok (.number 2.0) := by
  intro e result
  exact ⟨reached_numbered, by decide, by decide, readsConstants_numbered, _, _, rfl,
    by decide +kernel, by decide +kernel, by decide +kernel, by decide +kernel⟩

end Engine

end Spreadsheet
