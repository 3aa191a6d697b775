import Spreadsheet.Proofs.Evaluation.ExprScope

/-!
# Formulas without memory

What an engine computes depends on its memory in one respect only, the keys that
are held.  Here is the same computation without the rest: no trees are kept, and
the keys are an argument.  That the engine computes this is shown in
`Proofs.Engine.Caching`.

`answering` answers the requests of a formula from the values of cells, and its
argument says which values these are, or refuses.  With the refusal of keys that
are held the answers are `answersAt`, the counterpart of `readerAt`.  Formulas
that call only functions that are built in have results under such answers
(`answersAt_areResults`).
-/

namespace Spreadsheet.Engine

open Spreadsheet.Evaluation
open Spreadsheet.Formula (Error Reference Registry)
open Spreadsheet.Grid (Content Range Workbook)

/-! ## Computing with answers -/

/-- The outcome of a text under answers for each sheet. -/
def Surroundings.outcome (s : Surroundings) (answers : Nat → Answers) (text : String)
    (o : Options) : Except Error Value :=
  match formulaBody? text with
  | none => .ok (.text text)
  | some body =>
    ((s.formula (s.context o) body).under (answers (o.sheet.getD s.host.selected))).map
      (formatted s o.format)

/-- The options of a formula in a cell. -/
def cellOptions (sheet row column : Nat) : Options :=
  { sheet := some sheet, row := some row, column := some column }

/-- The value of a cell under answers for each sheet. -/
def Surroundings.value (s : Surroundings) (answers : Nat → Answers) (sheet row column : Nat) :
    Value :=
  match s.host.content sheet row column with
  | .formula text => orErrorText (s.outcome answers text (cellOptions sheet row column))
  | c => .ofContent c

/-- Answers from the values of cells.  To read a range is to enter it, which may be refused and
gives the values of the cells on its sheet. -/
def answering (h : Host) (enter : Nat → Range → Except Error (Nat → Nat → Value)) (sheet : Nat) :
    Answers where
  cell r := do
    let i ← sheetOf h sheet r
    let value ← enter i r.range
    return value r.range.top r.range.left
  cells r hidden := do
    let i ← sheetOf h sheet r
    if h.rows i ≤ r.range.bottom || h.columns i ≤ r.range.right then
      .error (.indexOutOfRange (.outsideSheet r.text))
    else do
      let value ← enter i r.range
      return (cellsToRead h i r.range hidden none).map fun cell => (value cell.1 cell.2).raw

/-- Enters a range unless its key is held.  Its cells are computed while it is held. -/
def entering (s : Surroundings) (answers : List String → Nat → Answers) (held : List String)
    (i : Nat) (r : Range) : Except Error (Nat → Nat → Value) :=
  if held.contains (keyOf s.host i r) then .error .circularReference
  else .ok (s.value (answers (keyOf s.host i r :: held)) i)

/-- The answers for a formula on a sheet when some keys are held and the given number of others can
still be held. -/
def answersAt (s : Surroundings) : Nat → List String → Nat → Answers
  | 0, _, _ => ⟨fun _ => .error .circularReference, fun _ _ => .error .circularReference⟩
  | free + 1, held, sheet => answering s.host (entering s (answersAt s free) held) sheet

/-- A range is entered when its key is not held. -/
theorem entering_eq_ok {s : Surroundings} {answers : List String → Nat → Answers}
    {held : List String} {i : Nat} {r : Range} {value : Nat → Nat → Value} :
    entering s answers held i r = .ok value ↔
      keyOf s.host i r ∉ held ∧ s.value (answers (keyOf s.host i r :: held)) i = value := by
  unfold entering
  split
  next h => simp_all
  next h => simp_all

/-- A first cell is answered with its value when its range is entered. -/
theorem answering_cell_eq_ok {h : Host} {enter : Nat → Range → Except Error (Nat → Nat → Value)}
    {sheet : Nat} {r : Reference} {v : Value} :
    (answering h enter sheet).cell r = .ok v ↔
      ∃ i value, sheetOf h sheet r = .ok i ∧ enter i r.range = .ok value ∧
        value r.range.top r.range.left = v := by
  simp only [answering, Program.bind_eq_ok]
  constructor
  · rintro ⟨i, hi, value, hvalue, hv⟩
    exact ⟨i, value, hi, hvalue, Except.ok.inj hv⟩
  · rintro ⟨i, value, hi, hvalue, rfl⟩
    exact ⟨i, hi, value, hvalue, rfl⟩

/-! ## Cells of a workbook -/

/-- What a workbook holds is the content of one of the cells of its sheet, unless it is nothing. -/
theorem exists_cell_of_content {b : Workbook} {i row column : Nat} {content : Content}
    (h : b.host.content i row column = content) (hcontent : content ≠ .empty) :
    ∃ w cell, b.sheets[i]? = some w ∧ ((row, column), cell) ∈ w.cells ∧
      cell.content = content := by
  cases hw : b.sheets[i]? with
  | none =>
    simp only [Workbook.host, hw, Option.map_none, Option.getD_none] at h
    exact absurd h.symm hcontent
  | some w =>
    simp only [Workbook.host, hw, Option.map_some, Option.getD_some, Grid.Worksheet.content] at h
    split at h
    next cell hcell =>
      obtain ⟨before, after, hcells, -⟩ := List.lookup_eq_some_iff.1 hcell
      refine ⟨w, cell, rfl, ?_, h⟩
      rw [hcells]
      exact List.mem_append_right _ List.mem_cons_self
    next => exact absurd h.symm hcontent

/-! ## Results -/

/-- A format option keeps a result or turns it into a text. -/
theorem formatted_eq_or (s : Surroundings) (format : Option String) (v : Value) :
    formatted s format v = v ∨ ∃ t, formatted s format v = .text t := by
  cases format with
  | none => exact .inl rfl
  | some f =>
    unfold formatted
    dsimp only
    split
    · exact .inr ⟨_, rfl⟩
    · exact .inl rfl

theorem isResult_formatted {s : Surroundings} {format : Option String} {v : Value}
    (h : v.isResult = true) : (formatted s format v).isResult = true := by
  obtain heq | ⟨t, heq⟩ := formatted_eq_or s format v
  · rwa [heq]
  · rw [heq]
    rfl

theorem isResult_orErrorText {x : Except Error Value} (h : ∀ v, x = .ok v → v.isResult = true) :
    (orErrorText x).isResult = true := by
  cases x with
  | ok v => exact h v rfl
  | error e => rfl

section

variable {s : Surroundings} {answers : Nat → Answers} (hs : s.host.KnowsNoNames)
  (hregistry : s.registry = .standard)
include hs hregistry

theorem isResult_outcome (hanswers : ∀ i, (answers i).AreResults) {text : String} {o : Options}
    {v : Value} (h : s.outcome answers text o = .ok v) : v.isResult = true := by
  unfold Surroundings.outcome at h
  split at h
  · cases h
    rfl
  next body _ =>
    have hwithin := formula_within hs hregistry (s.context o) body
    obtain ⟨w, hx, hw⟩ := Program.bind_eq_ok.1 h
    cases hw
    exact isResult_formatted (hwithin.of_under (hanswers _) hx)

theorem isResult_value (hanswers : ∀ i, (answers i).AreResults) (sheet row column : Nat) :
    (s.value answers sheet row column).isResult = true := by
  unfold Surroundings.value
  split
  · apply isResult_orErrorText
    exact fun v => isResult_outcome hs hregistry hanswers
  · exact Value.isResult_ofContent _

end

/-- Answers are results when all cells have results. -/
theorem answering_areResults {h : Host} {enter : Nat → Range → Except Error (Nat → Nat → Value)}
    {sheet : Nat}
    (henter : ∀ {i r value}, enter i r = .ok value →
      ∀ row column, (value row column).isResult = true) :
    (answering h enter sheet).AreResults where
  cell {r v} hv := by
    obtain ⟨i, value, -, hvalue, rfl⟩ := answering_cell_eq_ok.1 hv
    exact henter hvalue _ _
  cells {r hidden vs} hvs := by
    simp only [answering, Program.bind_eq_ok] at hvs
    obtain ⟨i, -, hvs⟩ := hvs
    split at hvs
    · cases hvs
    · obtain ⟨value, hvalue, hvs⟩ := Program.bind_eq_ok.1 hvs
      cases hvs
      intro v hv
      obtain ⟨cell, -, rfl⟩ := List.mem_map.1 hv
      exact Value.isResult_raw (henter hvalue _ _)

/-- Formulas that call only functions that are built in are answered with results. -/
theorem answersAt_areResults {s : Surroundings} (hs : s.host.KnowsNoNames)
    (hregistry : s.registry = .standard) (n : Nat) (held : List String) (sheet : Nat) :
    (answersAt s n held sheet).AreResults := by
  induction n generalizing held sheet with
  | zero => exact ⟨nofun, nofun⟩
  | succ n ih =>
    apply answering_areResults
    intro i r value hvalue row column
    obtain ⟨-, rfl⟩ := entering_eq_ok.1 hvalue
    exact isResult_value hs hregistry (fun i => ih _ i) i row column

/-! ## Cells one after the other -/

section

variable (s : Surroundings) (readers : Nat → Reader) (sheet : Nat)

/-- The values of cells before others that are there already, the last one first. -/
def valuesOnto : List (Nat × Nat) → List Value → Memory → List Value × Memory
  | [], values, m => (values, m)
  | cell :: cells, values, m =>
    let answer := valueAt s readers sheet cell.1 cell.2 m
    valuesOnto cells (answer.1.raw :: values) answer.2

theorem foldl_eq_valuesOnto {f : List Value × Memory → Nat × Nat → List Value × Memory}
    (hf : ∀ values m cell, f (values, m) cell =
      ((valueAt s readers sheet cell.1 cell.2 m).1.raw :: values,
        (valueAt s readers sheet cell.1 cell.2 m).2))
    (cells : List (Nat × Nat)) (values : List Value) (m : Memory) :
    cells.foldl f (values, m) = valuesOnto s readers sheet cells values m := by
  induction cells generalizing values m with
  | nil => rfl
  | cons cell cells ih => rw [List.foldl_cons, hf, ih, valuesOnto]

theorem valuesAt_eq (cells : List (Nat × Nat)) (m : Memory) :
    valuesAt s readers sheet cells m =
      ((valuesOnto s readers sheet cells [] m).1.reverse,
        (valuesOnto s readers sheet cells [] m).2) := by
  unfold valuesAt
  rw [foldl_eq_valuesOnto s readers sheet fun _ _ _ => rfl]

end

/-! ## Agreement -/

section

variable {s : Surroundings} {answers answers' : Nat → Answers}

/-- An outcome depends on the answers to the formula. -/
theorem outcome_congr {text : String} {o : Options}
    (h : ∀ body, formulaBody? text = some body →
      (s.formula (s.context o) body).under (answers (o.sheet.getD s.host.selected)) =
        (s.formula (s.context o) body).under (answers' (o.sheet.getD s.host.selected))) :
    s.outcome answers text o = s.outcome answers' text o := by
  unfold Surroundings.outcome
  split
  · rfl
  next body hbody => rw [h body hbody]

/-- The value of a cell depends on the outcome of its formula. -/
theorem value_congr {sheet row column : Nat}
    (h : ∀ text, s.host.content sheet row column = .formula text →
      s.outcome answers text (cellOptions sheet row column) =
        s.outcome answers' text (cellOptions sheet row column)) :
    s.value answers sheet row column = s.value answers' sheet row column := by
  unfold Surroundings.value
  split
  next text htext => rw [h text htext]
  next => rfl

end

/-! ## Agreement on a scope -/

/-- The cells that are read lie in the range. -/
theorem mem_cellsToRead {h : Host} {i : Nat} {r : Range} {hidden : Bool} {column : Option Nat}
    {cell : Nat × Nat} (hcell : cell ∈ cellsToRead h i r hidden column) :
    r.contains cell.1 cell.2 = true := by
  simp only [cellsToRead, List.mem_flatMap, List.mem_filter, List.mem_map] at hcell
  obtain ⟨row, ⟨hrow, -⟩, c, ⟨hc, -⟩, rfl⟩ := hcell
  exact Range.contains_iff.2 ⟨Range.mem_rowIndices.1 hrow, Range.mem_columnIndices.1 hc⟩

/-- Two hosts agree on the size of a sheet and on what is hidden in a range of it. -/
structure ReadsAlike (h h' : Host) (i : Nat) (r : Range) : Prop where
  /-- The number of rows is the same. -/
  rows : h.rows i = h'.rows i
  /-- The number of columns is the same. -/
  columns : h.columns i = h'.columns i
  /-- The same rows of the range are hidden. -/
  rowHidden : ∀ row ∈ r.rowIndices, h.isRowHidden i row = h'.isRowHidden i row
  /-- The same columns of the range are hidden. -/
  columnHidden : ∀ column ∈ r.columnIndices, h.isColumnHidden i column = h'.isColumnHidden i column

theorem ReadsAlike.refl (h : Host) (i : Nat) (r : Range) : ReadsAlike h h i r :=
  ⟨rfl, rfl, fun _ _ => rfl, fun _ _ => rfl⟩

theorem ReadsAlike.cellsToRead_eq {h h' : Host} {i : Nat} {r : Range} (hread : ReadsAlike h h' i r)
    (hidden : Bool) (column : Option Nat) :
    cellsToRead h i r hidden column = cellsToRead h' i r hidden column := by
  have hrows : (r.rowIndices.filter fun row => hidden || !h.isRowHidden i row) =
      r.rowIndices.filter fun row => hidden || !h'.isRowHidden i row :=
    List.filter_congr fun row hrow => by rw [hread.rowHidden row hrow]
  have hcolumns : (r.columnIndices.filter fun c =>
        column.all (fun offset => r.left + offset = c) && (hidden || !h.isColumnHidden i c)) =
      r.columnIndices.filter fun c =>
        column.all (fun offset => r.left + offset = c) && (hidden || !h'.isColumnHidden i c) :=
    List.filter_congr fun c hc => by rw [hread.columnHidden c hc]
  simp only [cellsToRead, hrows, hcolumns]

/-- Two attempts to enter a range end in the same way: with the same values of its cells, or with
the same refusal. -/
inductive EntersAlike (r : Range) :
    Except Error (Nat → Nat → Value) → Except Error (Nat → Nat → Value) → Prop where
  /-- Both enter it and find the same values. -/
  | entered {value value'} :
    (∀ row column, r.contains row column = true → value row column = value' row column) →
      EntersAlike r (.ok value) (.ok value')
  /-- Both are refused. -/
  | refused {e} : EntersAlike r (.error e) (.error e)

/-- Answers agree on a scope when its ranges lie on the same sheets, are read alike there and are
entered alike. -/
theorem answering_alike {h h' : Host}
    {enter enter' : Nat → Range → Except Error (Nat → Nat → Value)} {base : Nat} {S : Scope}
    (hsheet : ∀ {r}, S.has r → sheetOf h base r = sheetOf h' base r)
    (hread : ∀ {r i}, S.has r → sheetOf h base r = .ok i → ReadsAlike h h' i r.range)
    (henter : ∀ {r i}, S.has r → sheetOf h base r = .ok i →
      EntersAlike r.range (enter i r.range) (enter' i r.range)) :
    Answers.AgreeOn S (answering h enter base) (answering h' enter' base) where
  cell {r} hr := by
    simp only [answering, ← hsheet hr]
    cases hi : sheetOf h base r with
    | error e => rfl
    | ok i =>
      change (enter i r.range >>= _) = (enter' i r.range >>= _)
      generalize enter i r.range = x, enter' i r.range = x', henter hr hi = halike
      cases halike with
      | entered heq => exact congrArg Except.ok (heq _ _ (Range.contains_first r.range))
      | refused => rfl
  cells {r hidden} hr := by
    simp only [answering, ← hsheet hr]
    cases hi : sheetOf h base r with
    | error e => rfl
    | ok i =>
      have hsame := hread hr hi
      change (if _ then _ else enter i r.range >>= _) = (if _ then _ else enter' i r.range >>= _)
      rw [← hsame.rows, ← hsame.columns, ← hsame.cellsToRead_eq]
      generalize enter i r.range = x, enter' i r.range = x', henter hr hi = halike
      split
      · rfl
      · cases halike with
        | entered heq =>
          apply congrArg Except.ok
          apply List.map_congr_left
          intro cell hcell
          rw [heq _ _ (mem_cellsToRead hcell)]
        | refused => rfl

end Spreadsheet.Engine
