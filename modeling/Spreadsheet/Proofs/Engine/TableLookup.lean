import Spreadsheet.Proofs.Engine.Constants
import Spreadsheet.Proofs.Functions.Lookups
import Spreadsheet.Proofs.Value.ExactSearch
import Spreadsheet.Proofs.Value.SortedSearch

/-!
# Lookups in tables

An exact `VLOOKUP` reads the first column of a table as keys and then a whole
column of results.  `INDEX` with the position that `MATCH` finds in the first
column reads the same keys and then one cell.

A table that is answered with the same values column by column and cell by cell
is `Tabulated`.  In such a table both search the same keys and differ only in
what they do with the position (`vLookup_under`, `index_position_under`), and
that comes to the same up to `2 ^ 53` rows (`settledValue_indexedIn`).  Ranges
of constants are answered in this way (`tabulated_answers`), so that the two
formulas have the same result (`Reached.vLookup_eq_index_match`).

The result need not be a value or that nothing is found: a text can be too large
for a pattern.  In a table with one row more, `INDEX` misses the last row,
since its position has no `Float` (`vLookup_ne_index_match`).
-/

namespace Spreadsheet.Engine

open Spreadsheet.Decimal (toUnsigned64 truncate)
open Spreadsheet.Evaluation
open Spreadsheet.Evaluation.Program
open Spreadsheet.Formula (Error Expr Function Reference)
open Spreadsheet.Functions
open Spreadsheet.Grid (Content Range Workbook)
open Spreadsheet.Value (exactPosition? exactPosition?_lt exactPosition?_eq_error)

/-! ## Positions -/

/-- A position that `MATCH` gives is one that `INDEX` takes, as long as `Float` counts so far. -/
theorem indexWithin_ofNat {name : String} {span p : Nat} (hp : p < span) (hcount : p < 2 ^ 53) :
    indexWithin name (Float.ofNat (p + 1)) span = .ok (some ⟨p, hp⟩) := by
  have hn : toUnsigned64 (truncate (Float.ofNat (p + 1))) = p + 1 := by
    rw [Decimal.truncate_ofNat (by omega), Decimal.toUnsigned64_ofNat (by omega)]
  rw [indexWithin_of_le (by omega) (by omega)]
  simp only [hn, Nat.add_sub_cancel]

theorem indexWithin_one {name : String} {span : Nat} (hspan : 0 < span) :
    indexWithin name 1.0 span = .ok (some ⟨0, hspan⟩) := by
  have hn : toUnsigned64 (truncate 1.0) = 1 := by decide +kernel
  rw [indexWithin_of_le (by omega) (by omega)]
  simp only [hn, Nat.sub_self]

example : indexWithin "INDEX row" 2.9 3 = .ok (some 1) := by decide +kernel

theorem lookupPosition?_false (sought : Value) (keys : List Value) :
    lookupPosition? sought false keys = exactPosition? sought keys := by
  unfold lookupPosition?
  cases exactPosition? sought keys with
  | error e => rfl
  | ok found => cases found <;> rfl

/-! ## Tables -/

/-- A table is answered with the same values column by column and cell by cell. -/
structure Tabulated (q : Answers) (r : Reference) (value : Nat → Nat → Value) : Prop where
  /-- A column is answered with its values. -/
  column : ∀ j hj, q.cells (r.withRange (r.range.column j hj)) true =
    .ok ((List.range r.range.rows).map fun i => value i j)
  /-- A cell is answered with its value. -/
  cell : ∀ i hi j hj, q.cell (r.withRange ((r.range.row i hi).column j hj)) = .ok (value i j)

section

variable {q : Answers} {r : Reference} {value : Nat → Nat → Value} {a c d zero one : Argument}
  {k : Float}

/-- The keys of a table. -/
def keysOf (r : Reference) (value : Nat → Nat → Value) : List Value :=
  (List.range r.range.rows).map fun i => value i 0

theorem lt_rows_of_exactPosition? {sought : Value} {p : Nat}
    (h : exactPosition? sought (keysOf r value) = .ok (some p)) : p < r.range.rows := by
  have hp := exactPosition?_lt h
  rwa [keysOf, List.length_map, List.length_range] at hp

/-- What is found in a column of a table, once the position is known. -/
def foundIn (value : Nat → Nat → Value) (j : Nat) (sought : Value) :
    Option Nat → Except Error Value
  | none => .error (.notFound sought.asText)
  | some p => .ok (value p j)

/-- `VLOOKUP` gives what an exact search finds. -/
theorem vLookup_under (h : Tabulated q r value) (hk : c.number.under q = .ok k)
    (hd : d.boolean.under q = .ok false) (hpos : 1 ≤ toUnsigned64 (truncate k))
    (hle : toUnsigned64 (truncate k) ≤ r.range.columns) :
    (tableLookup "VLOOKUP" .vertical [a, .written r, c, d]).under q =
      a.value.under q >>= fun x => exactPosition? x.raw (keysOf r value) >>=
        foundIn value (toUnsigned64 (truncate k) - 1) x.raw := by
  have hlt : toUnsigned64 (truncate k) - 1 < Axis.vertical.depth r.range := by
    change _ < r.range.columns
    omega
  have hdepth : toUnsigned64 (truncate k) ≤ Axis.vertical.depth r.range := hle
  rw [tableLookup_under (r := r) rfl hk hd hpos hdepth hlt]
  refine congrArg _ (funext fun x => ?_)
  have hkeys : q.cells (r.withRange (Axis.vertical.line r.range 0 (Axis.depth_pos _ _))) true =
      .ok (keysOf r value) := h.column 0 (Axis.vertical.depth_pos r.range)
  rw [hkeys, ok_bind, lookupPosition?_false]
  cases hfound : exactPosition? x.raw (keysOf r value) with
  | error e => rfl
  | ok found =>
    cases found with
    | none => rfl
    | some p =>
      have hp : p < r.range.rows := lt_rows_of_exactPosition? hfound
      have hresults : q.cells (r.withRange (Axis.vertical.line r.range _ hlt)) true =
          .ok ((List.range r.range.rows).map fun i => value i (toUnsigned64 (truncate k) - 1)) :=
        h.column _ hlt
      rw [ok_bind, ok_bind, tableResult, hresults, ok_bind, List.getElem?_map,
        List.getElem?_range hp]
      rfl

/-- `MATCH` on the first column of a table gives the position that an exact search finds. -/
theorem position_index_under (h : Tabulated q r value) (hzero : zero.number.under q = .ok 0.0)
    (hone : one.number.under q = .ok 1.0) :
    (position [a, .computed (index [.written r, zero, one]), zero]).under q =
      a.value.under q >>= fun x => exactPosition? x.raw (keysOf r value) >>=
        positionResult x.raw := by
  have hcolumns : 0 < r.range.columns := Axis.vertical.depth_pos r.range
  have hrows : 0 < r.range.rows := Axis.horizontal.depth_pos r.range
  have hwhole : Decimal.whole? 0.0 = some 0 := by decide +kernel
  have hindex : (index [.written r, zero, one]).under q =
      .ok (.reference (r.withRange (r.range.column 0 hcolumns))) := by
    rw [index_under_of_column (r := r) (y := 1.0) rfl hone, hzero, ok_bind,
      indexWithin_zero hwhole hrows, ok_bind, indexWithin_one hcolumns, ok_bind, narrowRange]
  have htype : Decimal.toSigned64 0.0 = 0 := by decide +kernel
  let arguments := [a, .computed (index [.written r, zero, one]), zero]
  have htypeOf : (optionalNumber arguments 2 1.0).under q = .ok 0.0 := hzero
  rw [position_under (reference_under hindex "MATCH") htypeOf]
  refine congrArg _ (funext fun x => ?_)
  rw [h.column 0 hcolumns, ok_bind, htype]
  rfl

/-- The cell of a column that `INDEX` takes for the position of `MATCH`. -/
def indexedIn (r : Reference) (j : Fin r.range.columns) (sought : Value) :
    Option Nat → Except Error Value
  | none => .error (.notFound sought.asText)
  | some p => indexWithin "INDEX row" (Float.ofNat (p + 1)) r.range.rows >>= fun row =>
    .ok (.reference (r.withRange (narrowRange r.range row (some j))))

/-- `INDEX` with the position of `MATCH` gives a reference to the cell in that row. -/
theorem index_position_under (h : Tabulated q r value) (hzero : zero.number.under q = .ok 0.0)
    (hone : one.number.under q = .ok 1.0) (hk : c.number.under q = .ok k)
    (hpos : 1 ≤ toUnsigned64 (truncate k)) (hle : toUnsigned64 (truncate k) ≤ r.range.columns) :
    (index [.written r, .computed (position [a, .computed (index [.written r, zero, one]), zero]),
      c]).under q =
      a.value.under q >>= fun x => exactPosition? x.raw (keysOf r value) >>=
        indexedIn r ⟨toUnsigned64 (truncate k) - 1, by omega⟩ x.raw := by
  rw [index_under_of_column (r := r) (y := k) rfl hk, indexWithin_of_le hpos hle]
  have hposition := position_index_under (a := a) h hzero hone
  cases hx : a.value.under q with
  | error e =>
    rw [hx, error_bind] at hposition
    rw [number_under_of_error hposition]
    rfl
  | ok x =>
    rw [hx, ok_bind] at hposition
    rw [ok_bind]
    cases hfound : exactPosition? x.raw (keysOf r value) with
    | error e =>
      rw [hfound, error_bind] at hposition
      rw [number_under_of_error hposition]
      rfl
    | ok found =>
      rw [hfound, ok_bind] at hposition
      cases found with
      | none =>
        rw [number_under_of_error hposition]
        rfl
      | some p =>
        rw [number_under hposition (isNaN_ofNat _)]
        rfl

/-- In a table with at most `2 ^ 53` rows that cell is the one in the row of the key. -/
theorem settledValue_indexedIn (h : Tabulated q r value) (hrows : r.range.rows ≤ 2 ^ 53)
    (hvalue : ∀ i j, settledValue q (value i j) = .ok (value i j)) {sought : Value}
    {found : Option Nat} (hfound : exactPosition? sought (keysOf r value) = .ok found)
    (j : Fin r.range.columns) :
    indexedIn r j sought found >>= settledValue q =
      foundIn value j sought found >>= settledValue q := by
  cases found with
  | none => rfl
  | some p =>
    have hp : p < r.range.rows := lt_rows_of_exactPosition? hfound
    rw [indexedIn, indexWithin_ofNat hp (by omega), ok_bind, ok_bind, narrowRange, foundIn, ok_bind,
      hvalue]
    exact h.cell p hp j j.isLt

end

/-! ## Constants -/

/-- A range of constants is a table for every formula. -/
theorem tabulated_answers {h : Host} {base i : Nat} {r : Reference} (registry : Formula.Registry)
    (hi : sheetOf h base r = .ok i) (hr : Constants h i r.range) :
    Tabulated (answers registry h base) r (constantAt h i r.range) where
  column j hj := by
    rw [hr.answers_part registry hi (r.range.column_within j hj), valuesOf_column]
  cell _ hp _ hj := hr.answers_cellOf registry hi hp hj

/-! ## Engines -/

section

variable {settings : Settings} {fs : List Function} {e : Engine} {h : Host} {f fm : Function}
  {ex ek ef : Expr} {table : Reference} {text : String} {o : Options} {k : Float} {i : Nat}

/-- What a lookup in a table of constants comes to. -/
theorem Reached.tryEvaluate_vLookup (he : Reached settings fs e) (hh : h.KnowsNoNames)
    (hv : f.body = .builtin .vLookup)
    (htext : treesOf e.registry text (.call f [ex, .reference table, ek, ef]))
    (ho : o.format = none)
    (hk : (e.runProgram h (o.sheet.getD h.selected)
      (argumentOf ((e.surroundings h).context o) ek).number).1 = .ok k)
    (hf : (e.runProgram h (o.sheet.getD h.selected)
      (argumentOf ((e.surroundings h).context o) ef).boolean).1 = .ok false)
    (hsheet : sheetOf h (o.sheet.getD h.selected) table = .ok i)
    (htable : Constants h i table.range) (hpos : 1 ≤ toUnsigned64 (truncate k))
    (hle : toUnsigned64 (truncate k) ≤ table.range.columns) :
    (e.tryEvaluate h text o).1 =
      (e.runProgram h (o.sheet.getD h.selected)
          (argumentOf ((e.surroundings h).context o) ex).value).1 >>= fun x =>
        exactPosition? x.raw (keysOf table (constantAt h i table.range)) >>= fun found =>
          foundIn (constantAt h i table.range) (toUnsigned64 (truncate k) - 1) x.raw found >>=
            settledValue (answers e.registry h (o.sheet.getD h.selected)) := by
  rw [he.atRest.1.runProgram hh] at hk hf ⊢
  rw [he.atRest.1.tryEvaluate_of_call hh hv htext ho]
  simp only [argumentsOf, argumentOf, applyBuiltin]
  rw [vLookup_under (tabulated_answers e.registry hsheet htable) hk hf hpos hle]
  simp only [LawfulMonad.bind_assoc]

/-- What `INDEX` comes to in a table of constants, in the row that `MATCH` gives. -/
theorem Reached.tryEvaluate_index_match (he : Reached settings fs e) (hh : h.KnowsNoNames)
    (hi : f.body = .builtin .index) (hm : fm.body = .builtin .position)
    (htext : treesOf e.registry text
      (.call f [.reference table,
        .call fm [ex, .call f [.reference table, .literal (.number 0.0), .literal (.number 1.0)],
          .literal (.number 0.0)], ek]))
    (ho : o.format = none)
    (hk : (e.runProgram h (o.sheet.getD h.selected)
      (argumentOf ((e.surroundings h).context o) ek).number).1 = .ok k)
    (hsheet : sheetOf h (o.sheet.getD h.selected) table = .ok i)
    (htable : Constants h i table.range) (hpos : 1 ≤ toUnsigned64 (truncate k))
    (hle : toUnsigned64 (truncate k) ≤ table.range.columns) :
    (e.tryEvaluate h text o).1 =
      (e.runProgram h (o.sheet.getD h.selected)
          (argumentOf ((e.surroundings h).context o) ex).value).1 >>= fun x =>
        exactPosition? x.raw (keysOf table (constantAt h i table.range)) >>= fun found =>
          indexedIn table ⟨toUnsigned64 (truncate k) - 1, by omega⟩ x.raw found >>=
            settledValue (answers e.registry h (o.sheet.getD h.selected)) := by
  rw [he.atRest.1.runProgram hh] at hk ⊢
  rw [he.atRest.1.tryEvaluate_of_call hh hi htext ho]
  simp only [argumentsOf, argumentOf, applyFunction, hm, hi, applyBuiltin]
  rw [index_position_under (tabulated_answers e.registry hsheet htable) rfl rfl hk hpos hle]
  simp only [LawfulMonad.bind_assoc]

end

/-- A lookup in the first column of a table of constants comes to the same as an index of the
position at which the first column matches: a value, that nothing is found, or the refusal of a
pattern. -/
theorem Reached.vLookup_eq_index_match {settings : Settings} {fs : List Function} {e : Engine}
    (he : Reached settings fs e) {h : Host} (hh : h.KnowsNoNames) {fv fi fm : Function}
    (hv : fv.body = .builtin .vLookup) (hi : fi.body = .builtin .index)
    (hm : fm.body = .builtin .position) {ex ek ef : Expr} {table : Reference}
    {lookup indexed : String}
    (hlookup : treesOf e.registry lookup (.call fv [ex, .reference table, ek, ef]))
    (hindexed : treesOf e.registry indexed
      (.call fi [.reference table,
        .call fm [ex, .call fi [.reference table, .literal (.number 0.0), .literal (.number 1.0)],
          .literal (.number 0.0)], ek]))
    {o : Options} (ho : o.format = none) {k : Float}
    (hk : (e.runProgram h (o.sheet.getD h.selected)
      (argumentOf ((e.surroundings h).context o) ek).number).1 = .ok k)
    (hf : (e.runProgram h (o.sheet.getD h.selected)
      (argumentOf ((e.surroundings h).context o) ef).boolean).1 = .ok false)
    {i : Nat} (hsheet : sheetOf h (o.sheet.getD h.selected) table = .ok i)
    (htable : Constants h i table.range) (hrows : table.range.rows ≤ 2 ^ 53)
    (hpos : 1 ≤ toUnsigned64 (truncate k)) (hle : toUnsigned64 (truncate k) ≤ table.range.columns) :
    let result := (e.tryEvaluate h lookup o).1
    result = (e.tryEvaluate h indexed o).1 ∧
      ∀ x, (e.runProgram h (o.sheet.getD h.selected)
          (argumentOf ((e.surroundings h).context o) ex).value).1 = .ok x →
        (∃ v, result = .ok v) ∨ result = .error (.notFound x.asText) ∨
          ∃ s, x.raw = .text s ∧ Value.wholePattern s = .error (.argument .patternTooLarge) ∧
            result = .error (.argument .patternTooLarge) := by
  intro result
  have hresult := he.tryEvaluate_vLookup hh hv hlookup ho hk hf hsheet htable hpos hle
  constructor
  · simp only [result]
    rw [hresult, he.tryEvaluate_index_match hh hi hm hindexed ho hk hsheet htable hpos hle]
    refine congrArg _ (funext fun x => ?_)
    cases hfound : exactPosition? x.raw (keysOf table (constantAt h i table.range)) with
    | error e => rfl
    | ok found =>
      exact (settledValue_indexedIn (tabulated_answers e.registry hsheet htable) hrows
        (fun _ _ => settledValue_ofContent _ _) hfound ⟨_, by omega⟩).symm
  · intro x hx
    rw [hx, ok_bind] at hresult
    change result = _ at hresult
    rw [hresult]
    cases hfound : exactPosition? x.raw (keysOf table (constantAt h i table.range)) with
    | error e =>
      obtain ⟨s, hs, hpattern, rfl⟩ := exactPosition?_eq_error hfound
      rw [Value.raw_raw] at hs
      exact .inr (.inr ⟨s, hs, hpattern, rfl⟩)
    | ok found =>
      cases found with
      | none =>
        refine .inr (.inl ?_)
        rw [ok_bind, foundIn, Value.asText_raw, error_bind]
      | some p =>
        left
        rw [ok_bind, foundIn, ok_bind]
        exact ⟨_, settledValue_ofContent _ _⟩

/-- Texts with a blank cell among them, numbers beside them, and a text to look up. -/
def stocked (sought : String) : Workbook where
  sheets := [
    { name := "a"
      cells := [
        ((0, 0), { content := .text "pear" }), ((2, 0), { content := .text "Apple" }),
        ((0, 1), { content := .number 3.0 }), ((1, 1), { content := .number 5.0 }),
        ((2, 1), { content := .number 4.0 }), ((0, 3), { content := .text sought })] }]

theorem constants_stocked (sought : String) {range : Range} (hbottom : range.bottom < 100)
    (hright : range.right < 26) : Constants (stocked sought).host 0 range :=
  .of_cells rfl hbottom hright (by simp)

theorem treesOf_lookup : treesOf .standard "=VLOOKUP(D1,A1:B3,2,FALSE)"
    (.call (Formula.Builtin.function .vLookup)
      [.reference ⟨.single { row := 0, column := 3 }, none⟩,
        .reference ⟨{ top := 0, left := 0, bottom := 2, right := 1 }, none⟩,
        .literal (.number 2.0),
        .call (Formula.Builtin.function .isFalse) []]) :=
  ⟨"VLOOKUP(D1,A1:B3,2,FALSE)", rfl, rfl⟩

theorem treesOf_indexed : treesOf .standard "=INDEX(A1:B3,MATCH(D1,INDEX(A1:B3,0,1),0),2)"
    (.call (Formula.Builtin.function .index)
      [.reference ⟨{ top := 0, left := 0, bottom := 2, right := 1 }, none⟩,
        .call (Formula.Builtin.function .position)
          [.reference ⟨.single { row := 0, column := 3 }, none⟩,
            .call (Formula.Builtin.function .index)
              [.reference ⟨{ top := 0, left := 0, bottom := 2, right := 1 }, none⟩,
                .literal (.number 0.0), .literal (.number 1.0)],
            .literal (.number 0.0)],
        .literal (.number 2.0)]) :=
  ⟨"INDEX(A1:B3,MATCH(D1,INDEX(A1:B3,0,1),0),2)", rfl, rfl⟩

/-- A pattern finds the number beside the last text in both ways. -/
theorem Reached.vLookup_eq_index_match_stocked :
    let e := Engine.new {}
    let b := stocked "ap*"
    let result := (e.tryEvaluate b.host "=VLOOKUP(D1,A1:B3,2,FALSE)" {}).1
    Reached {} [] e ∧
      result = (e.tryEvaluate b.host "=INDEX(A1:B3,MATCH(D1,INDEX(A1:B3,0,1),0),2)" {}).1 ∧
      result = .ok (.number 4.0) := by
  intro e b result
  have he : Reached {} [] e := .new
  have htwo : toUnsigned64 (truncate 2.0) = 2 := by decide +kernel
  refine ⟨he, (Reached.vLookup_eq_index_match he b.host_knowsNoNames rfl rfl rfl treesOf_lookup
    treesOf_indexed (o := {}) rfl (k := 2.0) rfl rfl rfl
    (constants_stocked _ (by decide) (by decide)) (by decide) (by omega) ?_).1, ?_⟩
  · rw [htwo]
    decide
  · decide +kernel

/-- A sheet with more rows than `Float` counts and a number in the last one. -/
def tall : Workbook where
  sheets := [
    { name := "a"
      rows := 2 ^ 53 + 1
      cells := [((2 ^ 53, 0), { content := .number 1.0 })] }]

theorem constants_tall {range : Range} (hbottom : range.bottom < 2 ^ 53 + 1)
    (hright : range.right < 26) : Constants tall.host 0 range :=
  .of_cells rfl hbottom hright (by simp)

theorem treesOf_tallLookup : treesOf .standard "=VLOOKUP(1,A1:A9007199254740993,1,FALSE)"
    (.call (Formula.Builtin.function .vLookup)
      [.literal (.number 1.0),
        .reference ⟨{ top := 0, left := 0, bottom := 9007199254740992, right := 0 }, none⟩,
        .literal (.number 1.0),
        .call (Formula.Builtin.function .isFalse) []]) :=
  ⟨"VLOOKUP(1,A1:A9007199254740993,1,FALSE)", rfl, rfl⟩

theorem treesOf_tallIndexed : treesOf .standard
    "=INDEX(A1:A9007199254740993,MATCH(1,INDEX(A1:A9007199254740993,0,1),0),1)"
    (.call (Formula.Builtin.function .index)
      [.reference ⟨{ top := 0, left := 0, bottom := 9007199254740992, right := 0 }, none⟩,
        .call (Formula.Builtin.function .position)
          [.literal (.number 1.0),
            .call (Formula.Builtin.function .index)
              [.reference ⟨{ top := 0, left := 0, bottom := 9007199254740992, right := 0 }, none⟩,
                .literal (.number 0.0), .literal (.number 1.0)],
            .literal (.number 0.0)],
        .literal (.number 1.0)]) :=
  ⟨"INDEX(A1:A9007199254740993,MATCH(1,INDEX(A1:A9007199254740993,0,1),0),1)", rfl, rfl⟩

theorem constantAt_tall {range : Range} (htop : range.top = 0) (hleft : range.left = 0) (p : Nat) :
    constantAt tall.host 0 range p 0 = if p = 2 ^ 53 then .number 1.0 else .empty := by
  have hcontent : tall.host.content 0 p 0 = if p = 2 ^ 53 then .number 1.0 else .empty := by
    simp only [Workbook.host, tall, Grid.Worksheet.content, Grid.Worksheet.cell?,
      List.getElem?_cons_zero, Option.map_some, Option.getD_some, List.lookup_cons]
    by_cases hp : p = 2 ^ 53
    · rw [if_pos hp, hp]
      rfl
    · have hne : ((p, 0) == (2 ^ 53, 0)) = false := by
        rw [beq_eq_false_iff_ne, ne_eq, Prod.mk.injEq]
        exact fun h => hp h.1
      rw [if_neg hp, hne]
      rfl
  rw [constantAt, htop, hleft, Nat.zero_add, hcontent]
  split <;> rfl

/-- The number is found in the last row. -/
theorem exactPosition?_tall {r : Reference} (htop : r.range.top = 0) (hleft : r.range.left = 0)
    (hrows : r.range.rows = 2 ^ 53 + 1) :
    exactPosition? (.number 1.0) (keysOf r (constantAt tall.host 0 r.range)) =
      .ok (some (2 ^ 53)) := by
  refine congrArg Except.ok (List.findIdx?_eq_some_iff_getElem.2 ⟨?_, ?_, fun p hp => ?_⟩)
  · rw [keysOf, List.length_map, List.length_range, hrows]
    decide
  · simp only [keysOf, List.getElem_map, List.getElem_range, constantAt_tall htop hleft]
    decide +kernel
  · simp only [keysOf, List.getElem_map, List.getElem_range, constantAt_tall htop hleft,
      if_neg (Nat.ne_of_lt hp)]
    decide +kernel

/-- The position in the last row is rounded to the one above. -/
theorem indexWithin_tall {name : String} {r : Reference} (hrows : r.range.rows = 2 ^ 53 + 1) :
    indexWithin name (Float.ofNat (2 ^ 53 + 1)) r.range.rows =
      .ok (some ⟨2 ^ 53 - 1, by omega⟩) := by
  have hrounded : Float.ofNat (2 ^ 53 + 1) = Float.ofNat (2 ^ 53 - 1 + 1) := by decide +kernel
  rw [hrounded, indexWithin_ofNat (by omega) (by decide)]

/-- A text that is too large for a pattern. -/
def questions : String := String.ofList (List.replicate 25000 '?')

theorem count_questions : questions.toList.count '?' = 25000 := by
  have hcount (n : Nat) : (String.ofList (List.replicate n '?')).toList.count '?' = n := by
    rw [String.toList_ofList, List.count_replicate_self]
  exact hcount 25000

/-- With one row more a lookup gives the number in the last row, and `INDEX` the empty cell above
it.  A text that is refused as a pattern is neither found nor missing. -/
theorem vLookup_ne_index_match :
    let e := Engine.new {}
    (e.tryEvaluate tall.host "=VLOOKUP(1,A1:A9007199254740993,1,FALSE)" {}).1 =
        .ok (.number 1.0) ∧
      (e.tryEvaluate tall.host
        "=INDEX(A1:A9007199254740993,MATCH(1,INDEX(A1:A9007199254740993,0,1),0),1)" {}).1 =
        .ok .empty ∧
      (e.tryEvaluate (stocked questions).host "=VLOOKUP(D1,A1:B3,2,FALSE)" {}).1 =
        .error (.argument .patternTooLarge) ∧
      (e.tryEvaluate (stocked questions).host
        "=INDEX(A1:B3,MATCH(D1,INDEX(A1:B3,0,1),0),2)" {}).1 =
        .error (.argument .patternTooLarge) := by
  intro e
  have he : Reached {} [] e := .new
  have hone : toUnsigned64 (truncate 1.0) = 1 := by decide +kernel
  have htwo : toUnsigned64 (truncate 2.0) = 2 := by decide +kernel
  have hnumber : (e.runProgram tall.host (({} : Options).sheet.getD tall.host.selected)
      (argumentOf ((e.surroundings tall.host).context {}) (.literal (.number 1.0))).value).1 =
      .ok (.number 1.0) := rfl
  have hquestions : (e.runProgram (stocked questions).host
      (({} : Options).sheet.getD (stocked questions).host.selected)
      (argumentOf ((e.surroundings (stocked questions).host).context {})
        (.reference ⟨.single { row := 0, column := 3 }, none⟩)).value).1 =
      .ok (.text questions) := rfl
  have hrefused (keys : List Value) : exactPosition? (.text questions) keys =
      .error (.argument .patternTooLarge) :=
    Value.exactPosition?_eq_error_of_count (by rw [count_questions]; omega) keys
  have hraw : (Value.number 1.0).raw = .number 1.0 := rfl
  have hrawText : (Value.text questions).raw = .text questions := rfl
  refine ⟨?_, ?_, ?_, ?_⟩
  · rw [he.tryEvaluate_vLookup tall.host_knowsNoNames rfl treesOf_tallLookup (o := {}) rfl
      (k := 1.0) rfl rfl (i := 0) rfl (constants_tall (by decide) (by decide))
      (Nat.le_of_eq hone.symm) (Nat.le_of_eq hone)]
    rw [hnumber, ok_bind, hraw, exactPosition?_tall rfl rfl rfl, ok_bind, foundIn, ok_bind, hone,
      constantAt_tall rfl rfl]
    rfl
  · rw [he.tryEvaluate_index_match tall.host_knowsNoNames rfl rfl treesOf_tallIndexed (o := {}) rfl
      (k := 1.0) rfl (i := 0) rfl (constants_tall (by decide) (by decide))
      (Nat.le_of_eq hone.symm) (Nat.le_of_eq hone)]
    rw [hnumber, ok_bind, hraw, exactPosition?_tall rfl rfl rfl, ok_bind, indexedIn,
      indexWithin_tall rfl, ok_bind, ok_bind, narrowRange]
    have hcell := (tabulated_answers e.registry (i := 0) (h := tall.host)
      (r := ⟨{ top := 0, left := 0, bottom := 9007199254740992, right := 0 }, none⟩) rfl
      (constants_tall (by decide) (by decide))).cell (2 ^ 53 - 1) (by decide)
      (toUnsigned64 (truncate 1.0) - 1) (by rw [hone]; decide)
    refine Eq.trans hcell ?_
    rw [hone, constantAt_tall rfl rfl, if_neg (by decide)]
  · rw [he.tryEvaluate_vLookup (stocked questions).host_knowsNoNames rfl treesOf_lookup (o := {})
      rfl (k := 2.0) rfl rfl (i := 0) rfl (constants_stocked _ (by decide) (by decide))
      (by omega) (Nat.le_of_eq htwo)]
    rw [hquestions, ok_bind, hrawText, hrefused]
    rfl
  · rw [he.tryEvaluate_index_match (stocked questions).host_knowsNoNames rfl rfl treesOf_indexed
      (o := {}) rfl (k := 2.0) rfl (i := 0) rfl (constants_stocked _ (by decide) (by decide))
      (by omega) (Nat.le_of_eq htwo)]
    rw [hquestions, ok_bind, hrawText, hrefused]
    rfl

end Spreadsheet.Engine
