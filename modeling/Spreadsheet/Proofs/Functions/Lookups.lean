import Spreadsheet.Functions.Lookups
import Spreadsheet.Proofs.Decimal.WholePart
import Spreadsheet.Proofs.Evaluation.Answers

/-!
# Results of lookups

What the functions on ranges give under given answers, told by what their
arguments give.  `MATCH` reads its keys after all arguments are computed
(`position_under`), `INDEX` reads nothing (`index_under`), and a lookup in a
table reads a line of keys and then a line of results (`tableLookup_under`).  In
tables with the same lines two such functions differ in their names only
(`tableLookup_lined`, `SameBut.lookupAmong`).

An index counts by its whole part (`indexWithin_succ`, `indexWithin_zero`), and
one outside the span is refused (`indexWithin_outside`).  Only where the span is
all that 64 bits count is a number accepted that they do not reach.
-/

namespace Spreadsheet.Functions

open Spreadsheet.Decimal (toSigned64 toUnsigned64 truncate whole?)
open Spreadsheet.Evaluation (Answers Argument Program argument optionalNumber valueAt numberAt)
open Spreadsheet.Evaluation.Program
open Spreadsheet.Formula (Error Reference)
open Spreadsheet.Grid (Range)

section

variable {q : Answers} {a b c d : Argument} {rest : List Argument}

/-- A program that gives a reference is an argument for a range. -/
theorem reference_under {p : Program Value} {r : Reference} (hp : p.under q = .ok (.reference r))
    (function : String) : ((Argument.computed p).reference function).under q = .ok r := by
  simp only [Argument.reference, Argument.operand, bind_eq, under_bind, hp]
  rfl

/-- A program that gives a value is an argument for the number of the value. -/
theorem number_under_of_value {p : Program Value} {v : Value} (hp : p.under q = .ok v)
    (hv : ∀ r, v ≠ .reference r) : (Argument.computed p).number.under q = v.expectNumber := by
  cases v with
  | reference r => exact (hv r rfl).elim
  | _ =>
    simp only [Argument.number, Argument.value, Argument.operand, bind_eq, under_bind, hp]
    exact under_ofExcept q _

/-- A program that gives a number other than NaN is an argument for it. -/
theorem number_under {p : Program Value} {x : Float} (hp : p.under q = .ok (.number x))
    (hx : x.isNaN = false) : (Argument.computed p).number.under q = .ok x :=
  (number_under_of_value hp nofun).trans (if_neg (by rw [Bool.not_eq_true]; exact hx))

theorem number_under_of_error {p : Program Value} {e : Error} (hp : p.under q = .error e) :
    (Argument.computed p).number.under q = .error e := by
  simp only [Argument.number, Argument.value, Argument.operand, bind_eq, under_bind, hp]
  rfl

/-- The result of `MATCH`, once the position is known. -/
def positionResult (sought : Value) : Option Nat → Except Error Value
  | some i => .ok (.number (Float.ofNat (i + 1)))
  | none => .error (.notFound sought.asText)

theorem position_under {r : Reference} {t : Float} (hr : (b.reference "MATCH").under q = .ok r)
    (ht : (optionalNumber (a :: b :: rest) 2 1.0).under q = .ok t) :
    (position (a :: b :: rest)).under q =
      a.value.under q >>= fun x => q.cells r true >>= fun keys =>
        matchPosition? x.raw (toSigned64 t) keys >>= positionResult x.raw := by
  have hfirst : valueAt (a :: b :: rest) 0 = a.value := rfl
  have hsecond : argument (a :: b :: rest) 1 = .done b := rfl
  simp only [position, bind_eq, hfirst, hsecond, done_bind, under_bind, hr, ht, ok_bind,
    under_cells, under_ofExcept]
  refine congrArg _ (funext fun x => congrArg _ (funext fun keys =>
    congrArg _ (funext fun i => ?_)))
  cases i <;> rfl

theorem index_under {r : Reference} (hr : (a.reference "INDEX").under q = .ok r) :
    (index (a :: b :: rest)).under q =
      b.number.under q >>= fun x => indexWithin "INDEX row" x r.range.rows >>= fun row =>
        (optionalNumber (a :: b :: rest) 2 0.0).under q >>= fun y =>
          indexWithin "INDEX column" y r.range.columns >>= fun column =>
            .ok (.reference (r.withRange (narrowRange r.range row column))) := by
  have hfirst : argument (a :: b :: rest) 0 = .done a := rfl
  have hsecond : numberAt (a :: b :: rest) 1 = b.number := rfl
  simp only [index, bind_eq, hfirst, hsecond, done_bind, under_bind, hr, ok_bind, under_ofExcept,
    pure_eq, under_done]

theorem index_under_of_column {r : Reference} {y : Float}
    (hr : (a.reference "INDEX").under q = .ok r)
    (hy : (optionalNumber (a :: b :: rest) 2 0.0).under q = .ok y) :
    (index (a :: b :: rest)).under q =
      b.number.under q >>= fun x => indexWithin "INDEX row" x r.range.rows >>= fun row =>
        indexWithin "INDEX column" y r.range.columns >>= fun column =>
          .ok (.reference (r.withRange (narrowRange r.range row column))) := by
  simp only [index_under hr, hy, ok_bind]

/-- The result of a lookup in a table, once the position is known. -/
def tableResult (q : Answers) (sought : Value) (r : Reference) :
    Option Nat → Except Error Value
  | none => .error (.notFound sought.asText)
  | some p => q.cells r true >>= fun results =>
    match results[p]? with
    | some v => .ok v
    | none => .error (.notFound sought.asText)

theorem tableLookup_under {function : String} {axis : Axis} {r : Reference} {k : Float}
    {approximate : Bool} (hr : (b.reference function).under q = .ok r)
    (hk : c.number.under q = .ok k) (hd : d.boolean.under q = .ok approximate)
    (hpos : 1 ≤ toUnsigned64 (truncate k))
    (hle : toUnsigned64 (truncate k) ≤ axis.depth r.range)
    (hlt : toUnsigned64 (truncate k) - 1 < axis.depth r.range) :
    (tableLookup function axis [a, b, c, d]).under q =
      a.value.under q >>= fun x =>
        q.cells (r.withRange (axis.line r.range 0 (axis.depth_pos r.range))) true >>= fun keys =>
          lookupPosition? x.raw approximate keys >>=
            tableResult q x.raw
              (r.withRange (axis.line r.range (toUnsigned64 (truncate k) - 1) hlt)) := by
  have hfirst : valueAt [a, b, c, d] 0 = a.value := rfl
  have hsecond : argument [a, b, c, d] 1 = .done b := rfl
  have hthird : numberAt [a, b, c, d] 2 = c.number := rfl
  have hfourth : [a, b, c, d][3]? = some d := rfl
  have hinside := And.intro (Decimal.not_lt_one hpos) (And.intro hlt hle)
  simp only [tableLookup, bind_eq, hfirst, hsecond, hthird, hfourth, done_bind, under_bind, hr, hk,
    hd, ok_bind, dif_pos hinside, under_cells, under_ofExcept]
  refine congrArg _ (funext fun x => congrArg _ (funext fun keys =>
    congrArg _ (funext fun i => ?_)))
  cases i with
  | none => rfl
  | some p =>
    rw [under_bind, under_cells]
    refine congrArg _ (funext fun results => ?_)
    cases results[p]? <;> rfl

/-! ## Indices -/

/-- A number from 1 to a span is an index. -/
theorem indexWithin_of_le {name : String} {x : Float} {span : Nat}
    (hpos : 1 ≤ toUnsigned64 (truncate x)) (hle : toUnsigned64 (truncate x) ≤ span) :
    indexWithin name x span = .ok (some ⟨toUnsigned64 (truncate x) - 1, by omega⟩) := by
  unfold indexWithin
  dsimp only
  rw [if_neg (Decimal.not_lt_zero hpos), dif_pos ⟨by omega, hle⟩, if_neg (by omega)]

/-- A number with the whole part `p + 1` is the index that `p` others precede, in a span that 64
bits can count. -/
theorem indexWithin_succ {name : String} {x : Float} {span p : Nat}
    (hx : whole? x = some ((p + 1 : Nat) : Int)) (hp : p < span)
    (hspan : span ≤ 18446744073709551615) : indexWithin name x span = .ok (some ⟨p, hp⟩) := by
  have hn : toUnsigned64 (truncate x) = p + 1 := by
    rw [Decimal.toUnsigned64_truncate hx]
    omega
  rw [indexWithin_of_le (by omega) (by omega)]
  simp only [hn, Nat.add_sub_cancel]

/-- A number with the whole part zero means all of a span. -/
theorem indexWithin_zero {name : String} {x : Float} {span : Nat} (hx : whole? x = some 0)
    (hspan : 0 < span) : indexWithin name x span = .ok none := by
  have hn : toUnsigned64 (truncate x) = 0 := by
    rw [Decimal.toUnsigned64_truncate hx]
    rfl
  have hlt : ¬ truncate x < 0.0 := by
    rw [Decimal.truncate_lt_zero_iff hx]
    decide
  unfold indexWithin
  dsimp only
  rw [if_neg hlt, dif_pos ⟨by omega, by omega⟩, if_pos hn]

/-- A number with a whole part from zero to a span is not refused. -/
theorem exists_indexWithin (name : String) {x : Float} {span k : Nat}
    (hx : whole? x = some (k : Int)) (hk : k ≤ span) (hpos : 0 < span)
    (hspan : span ≤ 18446744073709551615) : ∃ i, indexWithin name x span = .ok i := by
  cases k with
  | zero => exact ⟨_, indexWithin_zero hx hpos⟩
  | succ p => exact ⟨_, indexWithin_succ hx hk hspan⟩

/-- A number is infinite, or its whole part is below zero or above a span. -/
def Outside (x : Float) (span : Nat) : Prop :=
  x.isInf = true ∨ ∃ k, whole? x = some k ∧ (k < 0 ∨ span < k)

/-- A number outside a span is refused as an index, if 64 bits reach beyond the span or count up to
the number. -/
theorem indexWithin_outside {name : String} {x : Float} {span : Nat} (hout : Outside x span)
    (hreach : x < 18446744073709551616.0 ∨ span < 18446744073709551615) :
    indexWithin name x span = .error (.indexOutOfRange (.outsideRange name (truncate x) span)) := by
  by_cases hneg : truncate x < 0.0
  · exact if_pos hneg
  · have hlt : span < toUnsigned64 (truncate x) := by
      obtain hinf | ⟨k, hk, hout⟩ := hout
      · obtain hneg' | ⟨hge, hn⟩ := Decimal.truncate_of_isInf hinf
        · exact absurd hneg' hneg
        · rw [hn]
          exact hreach.resolve_left hge
      · rw [Decimal.truncate_lt_zero_iff hk] at hneg
        rw [Decimal.toUnsigned64_truncate hk]
        obtain hx | hspan := hreach
        · have := Decimal.whole?_lt hk hx
          omega
        · omega
    exact (if_neg hneg).trans (dif_neg fun h => absurd h.2 (by omega))

example : indexWithin "INDEX row" 4.5 3 =
    .error (.indexOutOfRange (.outsideRange "INDEX row" 4.0 3)) := by decide +kernel

/-- `INDEX` with two indices gives the part of the range that they stand for. -/
theorem index_narrowed {r : Reference} {x y : Float} {row : Option (Fin r.range.rows)}
    {column : Option (Fin r.range.columns)} (hr : (a.reference "INDEX").under q = .ok r)
    (hb : b.number.under q = .ok x) (hrow : indexWithin "INDEX row" x r.range.rows = .ok row)
    (hc : c.number.under q = .ok y)
    (hcolumn : indexWithin "INDEX column" y r.range.columns = .ok column) :
    (index [a, b, c]).under q =
      .ok (.reference (r.withRange (narrowRange r.range row column))) := by
  have hthird : (optionalNumber [a, b, c] 2 0.0).under q = .ok y := hc
  rw [index_under_of_column hr hthird, hb, ok_bind, hrow, ok_bind, hcolumn, ok_bind]

/-! ## Tables line by line -/

/-- A table is answered with given values line by line, along an axis. -/
def Lined (q : Answers) (axis : Axis) (r : Reference) (line : Nat → List Value) : Prop :=
  ∀ i h, q.cells (r.withRange (axis.line r.range i h)) true = .ok (line i)

/-- Whether a lookup may fall back on a sorted search. -/
def isApproximate : List Argument → Program Bool
  | a :: _ => a.boolean
  | [] => .done true

/-- The entry of a line of results, once the position is known. -/
def lineResult (results : List Value) (sought : Value) : Option Nat → Except Error Value
  | none => .error (.notFound sought.asText)
  | some p => (results[p]?).elim (.error (.notFound sought.asText)) .ok

/-- What a lookup gives for values, in a table with a number of lines. -/
def lookupAmong (function : String) (depth : Nat) (line : Nat → List Value) (sought : Value)
    (i : Float) (approximate : Bool) : Except Error Value :=
  if ¬ i < 1.0 ∧ toUnsigned64 i - 1 < depth ∧ toUnsigned64 i ≤ depth then
    lookupPosition? sought approximate (line 0) >>= lineResult (line (toUnsigned64 i - 1)) sought
  else .error (.indexOutOfRange (.outsideRange function i depth))

/-- A lookup in a table that is answered line by line, once the arguments are computed. -/
theorem lookupAmong_under {function : String} {axis : Axis} {r : Reference}
    {line : Nat → List Value} (hline : Lined q axis r line) (sought : Value) (i : Float)
    (approximate : Bool) :
    (if h : ¬ i < 1.0 ∧ toUnsigned64 i - 1 < axis.depth r.range ∧
        toUnsigned64 i ≤ axis.depth r.range then
      (cells (r.withRange (axis.line r.range 0 (axis.depth_pos r.range))) true).bind fun keys =>
        (Program.ofExcept (lookupPosition? sought approximate keys)).bind fun
        | none => .fail (.notFound sought.asText)
        | some p =>
          (cells (r.withRange (axis.line r.range (toUnsigned64 i - 1) h.2.1)) true).bind
            fun results =>
              match results[p]? with
              | some v => .done v
              | none => .fail (.notFound sought.asText)
      else .fail (.indexOutOfRange (.outsideRange function i (axis.depth r.range)))).under q =
      lookupAmong function (axis.depth r.range) line sought i approximate := by
  unfold lookupAmong
  split
  next h =>
    rw [under_bind, under_cells, hline 0, ok_bind, under_bind, under_ofExcept]
    refine congrArg _ (funext fun position => ?_)
    cases position with
    | none => rfl
    | some p =>
      dsimp only
      rw [under_bind, under_cells, hline _ h.2.1, ok_bind, lineResult]
      cases (line (toUnsigned64 i - 1))[p]? <;> rfl
  next => rfl

/-- A lookup depends on its axis only through the number of lines of the table and what they
hold. -/
theorem tableLookup_lined {function : String} {axis : Axis} {r : Reference}
    {line : Nat → List Value} (hr : (b.reference function).under q = .ok r)
    (hline : Lined q axis r line) :
    (tableLookup function axis (a :: b :: c :: rest)).under q =
      a.value.under q >>= fun x => c.number.under q >>= fun k => (isApproximate rest).under q >>=
        lookupAmong function (axis.depth r.range) line x.raw (truncate k) := by
  have hfirst : valueAt (a :: b :: c :: rest) 0 = a.value := rfl
  have hsecond : argument (a :: b :: c :: rest) 1 = .done b := rfl
  have hthird : numberAt (a :: b :: c :: rest) 2 = c.number := rfl
  simp only [tableLookup, bind_eq, pure_eq, hfirst, hsecond, hthird, done_bind, under_bind, hr,
    ok_bind]
  refine congrArg _ (funext fun x => congrArg _ (funext fun k => ?_))
  cases rest with
  | nil => exact lookupAmong_under hline x.raw (truncate k) true
  | cons d rest =>
    refine (under_bind q d.boolean _).trans (congrArg _ (funext fun approximate => ?_))
    exact lookupAmong_under hline x.raw (truncate k) approximate

end

/-! ## Names in messages -/

/-- Two outcomes are the same, or both refuse an index with messages that name two functions and
are the same otherwise. -/
inductive SameBut (f g : String) : Except Error Value → Except Error Value → Prop where
  /-- They are the same. -/
  | same (x) : SameBut f g x x
  /-- Both refuse an index. -/
  | refused (i : Float) (span : Nat) :
    SameBut f g (.error (.indexOutOfRange (.outsideRange f i span)))
      (.error (.indexOutOfRange (.outsideRange g i span)))

namespace SameBut

variable {f g : String} {x y : Except Error Value}

/-- What is done with two such outcomes has such outcomes. -/
theorem bind (h : SameBut f g x y) (k : Value → Except Error Value) :
    SameBut f g (x >>= k) (y >>= k) := by
  cases h with
  | same x => exact .same _
  | refused i span => exact .refused i span

theorem map (h : SameBut f g x y) (k : Value → Value) : SameBut f g (x.map k) (y.map k) := by
  cases h with
  | same x => exact .same _
  | refused i span => exact .refused i span

/-- Two ways to go on from the same outcome have such outcomes if they do for every result. -/
theorem next {α : Type} (x : Except Error α) {k l : α → Except Error Value}
    (h : ∀ a, SameBut f g (k a) (l a)) : SameBut f g (x >>= k) (x >>= l) := by
  cases x with
  | ok a => exact h a
  | error e => exact .same _

/-- The lookups of two functions in the same lines differ in their names only. -/
theorem lookupAmong (depth : Nat) (line : Nat → List Value) (sought : Value) (i : Float)
    (approximate : Bool) :
    SameBut f g (lookupAmong f depth line sought i approximate)
      (lookupAmong g depth line sought i approximate) := by
  unfold Functions.lookupAmong
  split
  · exact .same _
  · exact .refused i depth

end SameBut

end Spreadsheet.Functions
