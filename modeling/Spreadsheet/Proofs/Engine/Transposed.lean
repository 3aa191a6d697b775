import Spreadsheet.Proofs.Engine.Constants
import Spreadsheet.Proofs.Functions.Lookups
import Spreadsheet.Proofs.Grid.Storage

/-!
# Lookups in transposed tables

`VLOOKUP` takes the columns of a table for its lines and `HLOOKUP` the rows.
A range that holds the constants of another with rows and columns exchanged
(`Transposes`) has rows that are the columns of the other, so both functions see
the same lines in the two (`Transposes.lined`).  They give the same value or the
same error, whatever is looked up, with or without a sorted search.  Only an
index that is refused names the function (`Reached.vLookup_transposed`).
-/

namespace Spreadsheet.Engine

open Spreadsheet.Evaluation
open Spreadsheet.Formula (Error Expr Function Reference)
open Spreadsheet.Functions
open Spreadsheet.Grid (Range Workbook)

/-- A range on its sheet holds what another one holds, with rows and columns exchanged. -/
structure Transposes (h : Host) (i : Nat) (range : Range) (i' : Nat) (range' : Range) : Prop where
  /-- The last row is on the sheet. -/
  bottom_lt : range'.bottom < h.rows i'
  /-- The last column is on the sheet. -/
  right_lt : range'.right < h.columns i'
  /-- There are as many rows as the other range has columns. -/
  rows : range'.rows = range.columns
  /-- There are as many columns as the other range has rows. -/
  columns : range'.columns = range.rows
  /-- The cells hold the same. -/
  content : ∀ row < range.rows, ∀ column < range.columns,
    h.content i' (range'.top + column) (range'.left + row) =
      h.content i (range.top + row) (range.left + column)

section

variable {h : Host} {base i i' : Nat} {r r' : Reference}

/-- A range with the constants of another one is a range of constants. -/
theorem Transposes.constants {range range' : Range} (ht : Transposes h i range i' range')
    (hr : Constants h i range) : Constants h i' range' where
  bottom_lt := ht.bottom_lt
  right_lt := ht.right_lt
  content row column hcell := by
    obtain ⟨htop, hrow, hleft, hcolumn⟩ := Range.contains_iff_lt.1 hcell
    obtain ⟨p, rfl⟩ := Nat.exists_eq_add_of_le htop
    obtain ⟨j, rfl⟩ := Nat.exists_eq_add_of_le hleft
    have hrows := ht.rows
    have hcolumns := ht.columns
    rw [ht.content j (by omega) p (by omega)]
    apply hr.content
    rw [Range.contains_iff_lt]
    omega

/-- The values of a column of a range of constants. -/
def columnOf (h : Host) (i : Nat) (range : Range) (j : Nat) : List Value :=
  (List.range range.rows).map fun p => constantAt h i range p j

/-- A table of constants is answered column by column. -/
theorem Constants.lined (hr : Constants h i r.range) (registry : Formula.Registry)
    (hi : sheetOf h base r = .ok i) :
    Lined (answers registry h base) .vertical r (columnOf h i r.range) := by
  intro j hj
  have hcells := hr.answers_part registry hi (Axis.vertical.line_within r.range j hj)
  exact hcells.trans (congrArg Except.ok (valuesOf_column h i r.range j hj))

/-- The rows of the transposed table are answered with the columns of the other. -/
theorem Transposes.lined (ht : Transposes h i r.range i' r'.range) (hr : Constants h i r.range)
    (registry : Formula.Registry) (hi' : sheetOf h base r' = .ok i') :
    Lined (answers registry h base) .horizontal r' (columnOf h i r.range) := by
  intro j hj
  have hcells := (ht.constants hr).answers_part registry hi'
    (Axis.horizontal.line_within r'.range j hj)
  refine hcells.trans (congrArg Except.ok ((valuesOf_row h i' r'.range j hj).trans ?_))
  rw [ht.columns]
  refine List.map_congr_left fun p hp => congrArg Value.ofContent ?_
  exact ht.content p (List.mem_range.1 hp) j (ht.rows ▸ hj)

end

/-- A lookup in the columns of a table of constants and one in the rows of its transpose give the
same value or the same error, except that an index that is refused names the function. -/
theorem Reached.vLookup_transposed {settings : Settings} {fs : List Function} {e : Engine}
    (he : Reached settings fs e) {h : Host} (hh : h.KnowsNoNames) {fv fh : Function}
    (hv : fv.body = .builtin .vLookup) (hhor : fh.body = .builtin .hLookup)
    {ex et et' ek : Expr} {rest : List Expr} {lookup lookup' : String}
    (hlookup : treesOf e.registry lookup (.call fv (ex :: et :: ek :: rest)))
    (hlookup' : treesOf e.registry lookup' (.call fh (ex :: et' :: ek :: rest)))
    {o : Options} {table table' : Reference}
    (htable : (e.runProgram h (o.sheet.getD h.selected)
      ((argumentOf ((e.surroundings h).context o) et).reference "VLOOKUP")).1 = .ok table)
    (htable' : (e.runProgram h (o.sheet.getD h.selected)
      ((argumentOf ((e.surroundings h).context o) et').reference "HLOOKUP")).1 = .ok table')
    {i i' : Nat} (hi : sheetOf h (o.sheet.getD h.selected) table = .ok i)
    (hi' : sheetOf h (o.sheet.getD h.selected) table' = .ok i')
    (hr : Constants h i table.range) (ht : Transposes h i table.range i' table'.range) :
    SameBut "VLOOKUP" "HLOOKUP" (e.tryEvaluate h lookup o).1 (e.tryEvaluate h lookup' o).1 := by
  rw [he.atRest.1.runProgram hh] at htable htable'
  have hdepth : Axis.horizontal.depth table'.range = Axis.vertical.depth table.range := ht.rows
  rw [he.atRest.1.tryEvaluate_eq_map hh hlookup, he.atRest.1.tryEvaluate_eq_map hh hlookup',
    settled_under, settled_under, evaluate_call hv, evaluate_call hhor]
  simp only [argumentsOf, applyBuiltin]
  rw [tableLookup_lined htable (hr.lined e.registry hi),
    tableLookup_lined htable' (ht.lined hr e.registry hi'), hdepth]
  refine SameBut.map (SameBut.bind ?_ _) _
  exact .next _ fun x => .next _ fun k => .next _ fun d => .lookupAmong _ _ _ _ _

/-- Numbers with words beside them, and the same with the words below the numbers. -/
def mirrored : Workbook where
  sheets := [
    { name := "a"
      cells := [
        ((0, 0), { content := .number 1.0 }), ((0, 1), { content := .text "low" }),
        ((1, 0), { content := .number 4.0 }), ((1, 1), { content := .text "mid" }),
        ((2, 0), { content := .number 7.0 }), ((2, 1), { content := .text "high" })] },
    { name := "b"
      cells := [
        ((4, 1), { content := .number 1.0 }), ((5, 1), { content := .text "low" }),
        ((4, 2), { content := .number 4.0 }), ((5, 2), { content := .text "mid" }),
        ((4, 3), { content := .number 7.0 }), ((5, 3), { content := .text "high" })] }]

/-- Between two keys both lookups fall back on the lower one.  A third line is refused by both. -/
theorem Reached.vLookup_transposed_mirrored :
    let e := Engine.new {}
    let result (text : String) := (e.tryEvaluate mirrored.host text {}).1
    Reached {} [] e ∧
      SameBut "VLOOKUP" "HLOOKUP" (result "=VLOOKUP(5,A1:B3,2)") (result "=HLOOKUP(5,b!B5:D6,2)") ∧
      result "=VLOOKUP(5,A1:B3,2)" = .ok (.text "mid") ∧
      result "=VLOOKUP(5,A1:B3,3)" =
        .error (.indexOutOfRange (.outsideRange "VLOOKUP" 3.0 2)) ∧
      result "=HLOOKUP(5,b!B5:D6,3)" =
        .error (.indexOutOfRange (.outsideRange "HLOOKUP" 3.0 2)) := by
  intro e result
  have he : Reached {} [] e := .new
  let table : Reference := ⟨{ top := 0, left := 0, bottom := 2, right := 1 }, none⟩
  let table' : Reference := ⟨{ top := 4, left := 1, bottom := 5, right := 3 }, some "b"⟩
  have hr : Constants mirrored.host 0 table.range := .of_cells rfl (by decide) (by decide) (by simp)
  have ht : Transposes mirrored.host 0 table.range 1 table'.range :=
    ⟨by decide, by decide, rfl, rfl, by decide +kernel⟩
  have hv : (Formula.Builtin.function .vLookup).body = .builtin .vLookup := rfl
  have hh : (Formula.Builtin.function .hLookup).body = .builtin .hLookup := rfl
  have htable : (e.runProgram mirrored.host 0
      ((argumentOf ((e.surroundings mirrored.host).context {}) (.reference table)).reference
        "VLOOKUP")).1 = .ok table := rfl
  have htable' : (e.runProgram mirrored.host 0
      ((argumentOf ((e.surroundings mirrored.host).context {}) (.reference table')).reference
        "HLOOKUP")).1 = .ok table' := rfl
  refine ⟨he, ?_, by decide +kernel, by decide +kernel, by decide +kernel⟩
  exact Reached.vLookup_transposed he mirrored.host_knowsNoNames hv hh
    ⟨"VLOOKUP(5,A1:B3,2)", rfl, rfl⟩ ⟨"HLOOKUP(5,b!B5:D6,2)", rfl, rfl⟩ htable htable' rfl rfl hr ht

end Spreadsheet.Engine
