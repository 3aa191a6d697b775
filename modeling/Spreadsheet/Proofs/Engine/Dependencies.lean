import Spreadsheet.Proofs.Engine.Acyclic

/-!
# What a result depends on

A text depends on the cells of the ranges that are written in it, and on those
that the formulas in these cells depend on.  Nothing else has an influence on
its value.  Two workbooks with the same sheets may differ in any other cell, in
what they hide elsewhere, in display formats and in the selected sheet.

The cells that a text depends on are the least set that is closed under the
references of formulas (`DependsOn`).  The proof works with any such set
(`Region`).  While the same keys are held in both workbooks, ranges of the region
are refused alike or entered alike, and then their cells have the same values by
induction on the number of keys that can still be held (`Region.answersAt`).

Functions may narrow a range, and they may compute which one they read.  What they
read is still a part of a range that is written, as the scope of a formula says.
-/

namespace Spreadsheet.Engine

open Spreadsheet.Evaluation
open Spreadsheet.Formula (Error Reference)
open Spreadsheet.Grid (Content Range Workbook)

/-! ## Dependencies -/

/-- A text that is computed on a sheet has a range written in it to which a cell belongs. -/
def RefersTo (b : Workbook) (text : String) (base i row column : Nat) : Prop :=
  ∃ body w, formulaBody? text = some body ∧ w ∈ Formula.references .standard body ∧
    sheetOf b.host base w = .ok i ∧ w.range.contains row column = true

/-- The cells that a text on a sheet depends on, by their sheets, rows and columns. -/
inductive DependsOn (b : Workbook) (text : String) (base : Nat) : Nat → Nat → Nat → Prop where
  /-- The text refers to the cell. -/
  | direct {i row column} : RefersTo b text base i row column → DependsOn b text base i row column
  /-- A formula that the text depends on refers to the cell. -/
  | through {j row' column' formula i row column} :
    DependsOn b text base j row' column' →
      b.host.content j row' column' = .formula formula →
        RefersTo b formula j i row column → DependsOn b text base i row column

/-! ## Workbooks that agree -/

/-- Two workbooks have the same sheets, apart from what is on them. -/
structure SameSheets (b b' : Workbook) : Prop where
  /-- The names are the same. -/
  names : b.sheets.map (·.name) = b'.sheets.map (·.name)
  /-- The numbers of rows are the same. -/
  rows : b.sheets.map (·.rows) = b'.sheets.map (·.rows)
  /-- The numbers of columns are the same. -/
  columns : b.sheets.map (·.columns) = b'.sheets.map (·.columns)

/-- Two workbooks agree on a cell. -/
structure AgreeAt (b b' : Workbook) (i row column : Nat) : Prop where
  /-- The cell holds the same. -/
  content : b.host.content i row column = b'.host.content i row column
  /-- Its row is hidden in both or in neither. -/
  rowHidden : b.host.isRowHidden i row = b'.host.isRowHidden i row
  /-- Its column is hidden in both or in neither. -/
  columnHidden : b.host.isColumnHidden i column = b'.host.isColumnHidden i column

namespace SameSheets

variable {b b' : Workbook} (h : SameSheets b b')
include h

theorem sheetCount : b.host.sheetCount = b'.host.sheetCount := by
  have hlength := congrArg List.length h.names
  simpa [Workbook.host] using hlength

theorem sheetName? (i : Nat) : b.host.sheetName? i = b'.host.sheetName? i := by
  have hname := congrArg (·[i]?) h.names
  simpa [Workbook.host] using hname

theorem rows_eq (i : Nat) : b.host.rows i = b'.host.rows i := by
  have hrows := congrArg (fun sizes => (sizes[i]?).getD 0) h.rows
  simpa [Workbook.host] using hrows

theorem columns_eq (i : Nat) : b.host.columns i = b'.host.columns i := by
  have hcolumns := congrArg (fun sizes => (sizes[i]?).getD 0) h.columns
  simpa [Workbook.host] using hcolumns

theorem sheetOf_eq (base : Nat) (r : Reference) :
    sheetOf b.host base r = sheetOf b'.host base r := by
  unfold sheetOf Host.sheetIndex?
  simp only [h.sheetCount, h.sheetName?]

theorem keyOf_eq (i : Nat) (r : Range) : keyOf b.host i r = keyOf b'.host i r := by
  unfold keyOf
  rw [h.sheetName?]

theorem keyBound_eq : keyBound b.host = keyBound b'.host := by
  unfold keyBound
  rw [h.sheetCount]

end SameSheets

/-! ## Regions -/

/-- A set of cells that has, with a formula, all cells to which it refers, and on which two
workbooks agree. -/
structure Region (b b' : Workbook) (region : Nat → Nat → Nat → Prop) : Prop where
  /-- It is closed under the references of formulas. -/
  closed : ∀ {j row' column' formula i row column}, region j row' column' →
    b.host.content j row' column' = .formula formula → RefersTo b formula j i row column →
      region i row column
  /-- The workbooks agree on its cells. -/
  agree : ∀ {i row column}, region i row column → AgreeAt b b' i row column

/-- What a formula asks for is in a range to which it refers. -/
theorem refersTo_of_scope {b : Workbook} {text body : String} {base i row column : Nat}
    {r : Reference} (hbody : formulaBody? text = some body) (hr : (formulaScope .standard body).has r)
    (hi : sheetOf b.host base r = .ok i) (hcell : r.range.contains row column = true) :
    RefersTo b text base i row column := by
  obtain ⟨w, hw, hsheet, hrange⟩ := hr
  have hwi : sheetOf b.host base w = .ok i := by
    unfold sheetOf at hi ⊢
    rw [← hsheet]
    exact hi
  exact ⟨body, w, hbody, hw, hwi, hrange.contains hcell⟩

/-- A text has the same outcome in both workbooks when the answers agree on what it asks for. -/
theorem outcome_eq_of_agree {b b' : Workbook} {answers answers' : Nat → Answers} {text : String}
    {o : Options} {base : Nat} (ho : o.sheet = some base) (hanswers : (answers base).AreResults)
    (h : ∀ body, formulaBody? text = some body →
      Answers.AgreeOn (formulaScope .standard body) (answers base) (answers' base)) :
    Surroundings.outcome ⟨.standard, {}, b.host⟩ answers text o =
      Surroundings.outcome ⟨.standard, {}, b'.host⟩ answers' text o := by
  unfold Surroundings.outcome
  rw [ho]
  cases hbody : formulaBody? text with
  | none => rfl
  | some body =>
    -- A workbook says nothing on how a formula is parsed or displayed: the formulas are the same.
    have hwithin := formula_within (s := ⟨.standard, {}, b.host⟩) b.host_knowsNoNames rfl
      (Surroundings.context ⟨.standard, {}, b.host⟩ o) body
    exact congrArg (Except.map (formatted ⟨.standard, {}, b.host⟩ o.format))
      (hwithin.under_congr hanswers (h body hbody))

section

variable {b b' : Workbook} {region : Nat → Nat → Nat → Prop} (hsheets : SameSheets b b')
  (hregion : Region b b' region)
include hsheets hregion

/-- A range of the region is read alike in both workbooks. -/
theorem Region.readsAlike {i : Nat} {r : Range}
    (hr : ∀ row column, r.contains row column = true → region i row column) :
    ReadsAlike b.host b'.host i r where
  rows := hsheets.rows_eq i
  columns := hsheets.columns_eq i
  rowHidden row hrow := by
    have hcell : r.contains row r.left = true :=
      Range.contains_iff.2 ⟨Range.mem_rowIndices.1 hrow, le_rfl, r.left_le⟩
    exact (hregion.agree (hr row r.left hcell)).rowHidden
  columnHidden column hcolumn := by
    have hcell : r.contains r.top column = true :=
      Range.contains_iff.2 ⟨⟨le_rfl, r.top_le⟩, Range.mem_columnIndices.1 hcolumn⟩
    exact (hregion.agree (hr r.top column hcell)).columnHidden

/-- Both workbooks are answered alike where the region has all cells that a text refers to. -/
theorem Region.answersAt (n : Nat) (held : List String) {text body : String} {base : Nat}
    (hbody : formulaBody? text = some body)
    (htext : ∀ {i row column}, RefersTo b text base i row column → region i row column) :
    Answers.AgreeOn (formulaScope .standard body)
      (answersAt ⟨.standard, {}, b.host⟩ n held base)
      (answersAt ⟨.standard, {}, b'.host⟩ n held base) := by
  induction n generalizing held text body base with
  | zero => exact ⟨fun _ => rfl, fun _ => rfl⟩
  | succ n ih =>
    have hcells {r : Reference} {i : Nat} (hr : (formulaScope .standard body).has r)
        (hi : sheetOf b.host base r = .ok i) (row column : Nat)
        (hcell : r.range.contains row column = true) : region i row column :=
      htext (refersTo_of_scope hbody hr hi hcell)
    apply answering_alike
    · exact fun _ => hsheets.sheetOf_eq base _
    · exact fun hr hi => hregion.readsAlike hsheets (hcells hr hi)
    · intro r i hr hi
      unfold entering
      dsimp only
      rw [← hsheets.keyOf_eq]
      split
      · exact .refused
      · apply EntersAlike.entered
        intro row column hcell
        have hin := hcells hr hi row column hcell
        unfold Surroundings.value
        dsimp only
        rw [← (hregion.agree hin).content]
        split
        next formula hcontent =>
          apply congrArg orErrorText
          apply outcome_eq_of_agree rfl
          · exact answersAt_areResults b.host_knowsNoNames rfl _ _ _
          · intro body' hbody'
            exact ih _ hbody' fun hrefers => hregion.closed hin hcontent hrefers
        next => rfl

end

/-! ## Engines -/

/-- Written references are all that a result depends on.  Two workbooks with the same sheets give a
text the same result on a given sheet if they agree on the cells that it depends on, whatever the
engines have computed before. -/
theorem Reached.tryEvaluate_eq_of_agree {settings settings' : Settings} {e e' : Engine}
    (he : Reached settings [] e) (he' : Reached settings' [] e') {b b' : Workbook}
    (hsheets : SameSheets b b') (text : String) {o : Options} {base : Nat}
    (ho : o.sheet = some base)
    (hagree : ∀ i row column, DependsOn b text base i row column → AgreeAt b b' i row column) :
    (e.tryEvaluate b.host text o).1 = (e'.tryEvaluate b'.host text o).1 := by
  obtain ⟨hrest, hregistry⟩ := he.atRest
  obtain ⟨hrest', hregistry'⟩ := he'.atRest
  have hregion : Region b b' (DependsOn b text base) :=
    ⟨fun hin hcontent hrefers => .through hin hcontent hrefers, fun hin => hagree _ _ _ hin⟩
  rw [(hrest.tryEvaluate b.host_knowsNoNames text o).1,
    (hrest'.tryEvaluate b'.host_knowsNoNames text o).1, hregistry, hregistry']
  unfold outcome
  rw [← hsheets.keyBound_eq]
  apply outcome_eq_of_agree ho
  · exact answersAt_areResults b.host_knowsNoNames rfl _ _ _
  · exact fun body hbody => hregion.answersAt hsheets _ _ hbody .direct

/-- A workbook with a formula on its second sheet. -/
def linked : Workbook where
  sheets := [
    { name := "a", cells := [((0, 0), { content := .number 1.0 })] },
    { name := "b"
      cells := [((0, 0), { content := .formula "=A2*2" }), ((1, 0), { content := .number 5.0 })] }]

/-- The same workbook with other cells, a display format, hidden parts and another selected
sheet. -/
def relinked : Workbook where
  sheets := [
    { name := "a", cells := [((0, 0), { content := .formula "=A1" })], hiddenRows := [0] },
    { name := "b"
      cells := [
        ((0, 0), { content := .formula "=A2*2", format := some "n2" }),
        ((1, 0), { content := .number 5.0 }), ((1, 1), { content := .boolean true })]
      hiddenColumns := [1] }]
  selected := 1

/-- The only formula of the workbook refers to its own column. -/
theorem formula_linked {i row column : Nat} {formula : String}
    (h : linked.host.content i row column = .formula formula) :
    i = 1 ∧ formula = "=A2*2" := by
  obtain ⟨w, cell, hw, hmem, hcell⟩ := exists_cell_of_content h nofun
  match i with
  | 0 =>
    cases hw
    rw [List.mem_singleton] at hmem
    cases hmem
    cases hcell
  | 1 =>
    cases hw
    simp only [List.mem_cons, List.not_mem_nil, or_false, Prod.mk.injEq] at hmem
    obtain ⟨-, rfl⟩ | ⟨-, rfl⟩ := hmem
    · cases hcell
      exact ⟨rfl, rfl⟩
    · cases hcell
  | i + 2 => cases hw

/-- A reference leads to the first column of the second sheet. -/
def LeadsToFirst (base : Nat) (w : Reference) : Prop :=
  (sheetOf linked.host base w).toOption = some 1 ∧ w.range.left = 0 ∧ w.range.right = 0

instance (base : Nat) (w : Reference) : Decidable (LeadsToFirst base w) :=
  inferInstanceAs (Decidable (_ ∧ _ ∧ _))

theorem refersTo_first {text body : String} {base i row column : Nat}
    (hbody : formulaBody? text = some body)
    (hwritten : ∀ w ∈ Formula.references .standard body, LeadsToFirst base w)
    (h : RefersTo linked text base i row column) : i = 1 ∧ column = 0 := by
  obtain ⟨body', w, hbody', hw, hi, hcell⟩ := h
  obtain rfl : body = body' := Option.some.inj (hbody.symm.trans hbody')
  obtain ⟨hsheet, hleft, hright⟩ := hwritten w hw
  rw [Range.contains_iff] at hcell
  rw [hi] at hsheet
  exact ⟨Option.some.inj hsheet, by omega⟩

/-- A text that refers to the formula depends on the first column of the second sheet only. -/
theorem dependsOn_linked {i row column : Nat} (h : DependsOn linked "=b!A1+1" 0 i row column) :
    i = 1 ∧ column = 0 := by
  cases h with
  | direct h =>
    have hbody : formulaBody? "=b!A1+1" = some "b!A1+1" := by decide +kernel
    exact refersTo_first hbody (by decide +kernel) h
  | through _ hcontent h =>
    obtain ⟨rfl, rfl⟩ := formula_linked hcontent
    have hbody : formulaBody? "=A2*2" = some "A2*2" := by decide +kernel
    exact refersTo_first hbody (by decide +kernel) h

/-- The workbooks agree on what the text depends on, and give it the same result. -/
theorem Reached.tryEvaluate_eq_of_agree_linked :
    let e := Engine.new {}
    let o : Options := { sheet := some 0 }
    Reached {} [] e ∧ SameSheets linked relinked ∧
      (∀ i row column, DependsOn linked "=b!A1+1" 0 i row column →
        AgreeAt linked relinked i row column) ∧
      (e.tryEvaluate linked.host "=b!A1+1" o).1 = (e.tryEvaluate relinked.host "=b!A1+1" o).1 := by
  intro e o
  have he : Reached {} [] e := .new
  have hsheets : SameSheets linked relinked := ⟨rfl, rfl, rfl⟩
  have hagree (i row column : Nat) (h : DependsOn linked "=b!A1+1" 0 i row column) :
      AgreeAt linked relinked i row column := by
    obtain ⟨rfl, rfl⟩ := dependsOn_linked h
    refine ⟨?_, rfl, rfl⟩
    match row with
    | 0 => rfl
    | 1 => rfl
    | row + 2 => rfl
  exact ⟨he, hsheets, hagree, Reached.tryEvaluate_eq_of_agree he he hsheets "=b!A1+1" rfl hagree⟩

end Spreadsheet.Engine
