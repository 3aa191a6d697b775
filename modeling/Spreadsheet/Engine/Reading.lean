import Spreadsheet.Engine.Memory
import Spreadsheet.Evaluation.Evaluate

/-!
# Reading cells

Here the requests of a program are answered.  The value of a cell with a formula
is the value of the formula, computed on its own sheet and for its own cell, and
an error becomes a text.  While the cells of a range are read, the key of the
range is held, and a request for a range whose key is held is refused.

Reading a cell may compute a formula whose requests read further cells.  Every
such step holds one more key.  Keys come from the sheets of the host, the sheet
that the first formula is computed on, and the bounds of ranges, which are
below `indexLimit`, so there are only finitely many.  `keyBound` counts them,
and the recursion `readerAt` goes down from there.  At its end every key is
held, so the refusal there is the one that holding a key would give.

`Reader` is what answers the requests, and `run` works through a program with
one.  All definitions but `readerAt` take the reader for the next step as an
argument.
-/

namespace Spreadsheet.Engine

open Spreadsheet.Evaluation (Program Context argumentOf evaluate)
open Spreadsheet.Formula (Error Expr Reference Registry)
open Spreadsheet.Grid (Range indexLimit)

/-! ## Running programs -/

instance : Formula.Failing Program := ⟨.fail⟩

/-- What answers the requests of a program. -/
structure Reader where
  /-- The value of the first cell of a reference. -/
  cell : Reference → Memory → Except Error Value × Memory
  /-- The values of the cells of a reference. -/
  cells : Reference → Bool → Memory → Except Error (List Value) × Memory

/-- Works through a program. -/
def run {α : Type} (r : Reader) : Program α → Memory → Except Error α × Memory
  | .done a, m => (.ok a, m)
  | .fail e, m => (.error e, m)
  | .readCell ref next, m =>
    match r.cell ref m with
    | (.ok v, m) => run r (next v) m
    | (.error e, m) => (.error e, m)
  | .readCells ref hidden next, m =>
    match r.cells ref hidden m with
    | (.ok vs, m) => run r (next vs) m
    | (.error e, m) => (.error e, m)

/-! ## Computing a text -/

/-- How an engine works. -/
structure Settings where
  /-- The number of trees that are kept. -/
  capacity : Nat := 10000
  /-- Whether trees are kept. -/
  cacheEnabled : Bool := true
deriving DecidableEq

/-- What does not change while formulas are computed. -/
structure Surroundings where
  /-- The functions. -/
  registry : Registry
  /-- How the engine works. -/
  settings : Settings
  /-- The host. -/
  host : Host

/-- Where and how a formula is computed. -/
structure Options where
  /-- The format in which a primitive result is displayed. -/
  format : Option String := none
  /-- The sheet, if it is not the selected one. -/
  sheet : Option Nat := none
  /-- The row of the cell that the formula belongs to. -/
  row : Option Nat := none
  /-- The column of that cell. -/
  column : Option Nat := none
deriving DecidableEq

/-- The surroundings of a formula. -/
def Surroundings.context (s : Surroundings) (o : Options) : Context where
  row := o.row
  column := o.column
  render := s.host.render
  now := s.host.now
  draw := s.host.draw

/-- The values of expressions without their formats. -/
def rawValues (c : Context) : List Expr → Program (List Value)
  | [] => return []
  | e :: es => do
    let v ← (argumentOf c e).value
    return v.raw :: (← rawValues c es)

/-- The value that the host gives for a name. -/
def Surroundings.resolve (s : Surroundings) (c : Context) (name : String) (es : List Expr) :
    Program Value := do
  match s.host.resolve? name (← rawValues c es) with
  | some v => return v
  | none => .fail (.unknownFunction name)

/-- Parses a formula without its `=`. -/
def Surroundings.parse (s : Surroundings) (c : Context) (body : String) : Program Expr :=
  Formula.parseWith s.registry (s.resolve c) body

/-- The formula in a text, without white space around it and without its `=`. -/
def formulaBody? (text : String) : Option String :=
  match (Text.trim text).toList with
  | '=' :: body => some (String.ofList body)
  | _ => none

/-- The tree of a formula, taken from the cache or parsed.  A tree that was parsed is kept. -/
def treeOf (s : Surroundings) (r : Reader) (c : Context) (text body : String) (m : Memory) :
    Except Error Expr × Memory :=
  match if s.settings.cacheEnabled then m.cache.find? text else none with
  | some e => (.ok e, m)
  | none =>
    match run r (s.parse c body) { m with parsed := m.parsed + 1 } with
    | (.error e, m) => (.error e, m)
    | (.ok e, m) =>
      (.ok e, if s.settings.cacheEnabled then { m with cache := m.cache.insert text e } else m)

/-- The value of a tree.  A reference is read, so it is never the result. -/
def settled (c : Context) (e : Expr) : Program Value := do
  match ← evaluate c e with
  | .reference r => .cell r
  | v => return v

/-- A primitive value in a display format, if there is one. -/
def formatted (s : Surroundings) (format : Option String) (v : Value) : Value :=
  match format with
  | some f => if v.isPrimitive then .text (s.host.render v f) else v
  | none => v

/-- Computes a text.  One that does not start with `=` is its own value. -/
def computeText (s : Surroundings) (readers : Nat → Reader) (text : String) (o : Options)
    (m : Memory) : Except Error Value × Memory :=
  match formulaBody? text with
  | none => (.ok (.text text), m)
  | some body =>
    let r := readers (o.sheet.getD s.host.selected)
    let c := s.context o
    match treeOf s r c text body m with
    | (.error e, m) => (.error e, m)
    | (.ok e, m) =>
      let (result, m) := run r (settled c e) m
      (result.map (formatted s o.format), m)

/-- The text that an error becomes. -/
def errorText (e : Error) : Value := .text ("Error: " ++ e.message)

/-- A result, with an error as its text. -/
def orErrorText : Except Error Value → Value
  | .ok v => v
  | .error e => errorText e

/-! ## Reading cells and ranges -/

/-- The value of a cell. -/
def valueAt (s : Surroundings) (readers : Nat → Reader) (sheet row column : Nat) (m : Memory) :
    Value × Memory :=
  match s.host.content sheet row column with
  | .formula text =>
    let (result, m) := computeText s readers text
      { sheet := some sheet, row := some row, column := some column } m
    (orErrorText result, m)
  | c => (.ofContent c, m)

/-- The values of cells without their formats, one after the other. -/
def valuesAt (s : Surroundings) (readers : Nat → Reader) (sheet : Nat)
    (cells : List (Nat × Nat)) (m : Memory) : List Value × Memory :=
  let (values, m) := cells.foldl (fun (values, m) (row, column) =>
    let (v, m) := valueAt s readers sheet row column m
    (v.raw :: values, m)) ([], m)
  (values.reverse, m)

/-- The cells of a range that are to be read.  They may be those of one column only, given by its
distance to the first one. -/
def cellsToRead (h : Host) (sheet : Nat) (r : Range) (includeHidden : Bool) (column : Option Nat) :
    List (Nat × Nat) :=
  let rows := r.rowIndices.filter fun row => includeHidden || !h.isRowHidden sheet row
  let columns := r.columnIndices.filter fun c =>
    column.all (fun offset => r.left + offset = c) && (includeHidden || !h.isColumnHidden sheet c)
  rows.flatMap fun row => columns.map fun c => (row, c)

/-- Does something while a key is held.  It is refused when the key is held already. -/
def holding {α : Type} (key : String) (body : Memory → α × Memory) (m : Memory) :
    Except Error α × Memory :=
  match m.hold? key with
  | none => (.error .circularReference, m)
  | some m =>
    let (a, m) := body m
    (.ok a, m.release key)

/-- The sheet that a reference names, or else the one of the formula. -/
def sheetOf (h : Host) (sheet : Nat) (r : Reference) : Except Error Nat :=
  match r.sheet with
  | none => .ok sheet
  | some name =>
    match h.sheetIndex? name with
    | some i => .ok i
    | none => .error (.missingSheet name)

/-- The value of the first cell of a reference. -/
def readCell (s : Surroundings) (readers : Nat → Reader) (sheet : Nat) (r : Reference)
    (m : Memory) : Except Error Value × Memory :=
  match sheetOf s.host sheet r with
  | .error e => (.error e, m)
  | .ok i =>
    holding (keyOf s.host i r.range) (valueAt s readers i r.range.top r.range.left) m

/-- The values of the cells of a reference, which must lie on its sheet. -/
def readCells (s : Surroundings) (readers : Nat → Reader) (sheet : Nat) (r : Reference)
    (includeHidden : Bool) (column : Option Nat) (m : Memory) :
    Except Error (List Value) × Memory :=
  match sheetOf s.host sheet r with
  | .error e => (.error e, m)
  | .ok i =>
    if s.host.rows i ≤ r.range.bottom || s.host.columns i ≤ r.range.right then
      (.error (.indexOutOfRange (.outsideSheet r.text)), m)
    else
      holding (keyOf s.host i r.range)
        (valuesAt s readers i (cellsToRead s.host i r.range includeHidden column)) m

/-- The number of keys there can be. -/
def keyBound (h : Host) : Nat := (h.sheetCount + 1) * Nat.pow indexLimit 4

/-- What answers the requests of a formula on a sheet when the given number of keys can still be
held. -/
def readerAt (s : Surroundings) : Nat → Nat → Reader
  | 0, _ =>
    { cell := fun _ m => (.error .circularReference, m)
      cells := fun _ _ m => (.error .circularReference, m) }
  | free + 1, sheet =>
    { cell := fun r m => readCell s (readerAt s free) sheet r m
      cells := fun r hidden m => readCells s (readerAt s free) sheet r hidden none m }

end Spreadsheet.Engine
