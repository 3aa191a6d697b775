import Spreadsheet.Engine.Reading

/-!
# Engines

An engine computes formulas for a host.  It has functions, which can be added
to, and keeps the trees of the formulas it has parsed.  The host is passed with
every call, so it may change between two of them.

Registering a function drops the trees, since they may hold the function that
had its name before.
-/

namespace Spreadsheet

open Spreadsheet.Engine
open Spreadsheet.Evaluation (Program)
open Spreadsheet.Formula (Error Expr Function Reference Registry)
open Spreadsheet.Grid (Range)

/-- A formula engine. -/
structure Engine where
  /-- The functions. -/
  registry : Registry := .standard
  /-- How the engine works. -/
  settings : Settings := {}
  /-- What it remembers. -/
  memory : Memory

namespace Engine

/-- An engine that has computed nothing yet. -/
def new (settings : Settings) : Engine where
  settings := settings
  memory := { cache := { capacity := settings.capacity } }

/-- What does not change while formulas are computed. -/
def surroundings (e : Engine) (h : Host) : Surroundings := ⟨e.registry, e.settings, h⟩

/-- What answers the requests of a formula on a sheet. -/
def reader (e : Engine) (h : Host) (sheet : Nat) : Reader :=
  readerAt (e.surroundings h) (keyBound h) sheet

/-- A result with the engine after it. -/
def after {α : Type} (e : Engine) (result : α × Memory) : α × Engine :=
  (result.1, { e with memory := result.2 })

/-- Computes a text and keeps errors apart from values. -/
def tryEvaluate (e : Engine) (h : Host) (text : String) (o : Options) :
    Except Error Value × Engine :=
  e.after (computeText (e.surroundings h) (e.reader h) text o e.memory)

/-- Computes a text.  An error becomes a text that begins with `Error: `. -/
def evaluate (e : Engine) (h : Host) (text : String) (o : Options) : Value × Engine :=
  let (result, e) := e.tryEvaluate h text o
  (orErrorText result, e)

/-- The value of a cell, or the text in which it is displayed. -/
def cellValue (e : Engine) (h : Host) (sheet row column : Nat) (display : Bool) : Value × Engine :=
  let (v, e) := e.after
    (valueAt (e.surroundings h) (e.reader h) sheet row column e.memory)
  if display then
    match h.format? sheet row column with
    | some format => (.text (h.render v format), e)
    | none => (.text v.asText, e)
  else (v, e)

/-- Runs a program for a formula on a sheet. -/
def runProgram {α : Type} (e : Engine) (h : Host) (sheet : Nat) (p : Program α) :
    Except Error α × Engine :=
  e.after (run (e.reader h sheet) p e.memory)

/-- The value of the first cell of a reference. -/
def referenceValue (e : Engine) (h : Host) (sheet : Nat) (r : Reference) :
    Except Error Value × Engine :=
  e.after (readCell (e.surroundings h) (e.reader h) sheet r e.memory)

/-- The values of the cells of a reference, or of one of its columns. -/
def rangeValues (e : Engine) (h : Host) (sheet : Nat) (r : Reference) (includeHidden : Bool)
    (column : Option Nat) : Except Error (List Value) × Engine :=
  e.after (readCells (e.surroundings h) (e.reader h) sheet r includeHidden column e.memory)

/-- Marks a range as being read. -/
def hold (e : Engine) (h : Host) (sheet : Nat) (r : Range) : Except Error Engine :=
  match e.memory.hold? (keyOf h sheet r) with
  | some m => .ok { e with memory := m }
  | none => .error .circularReference

/-- Takes the mark of a range away. -/
def release (e : Engine) (h : Host) (sheet : Nat) (r : Range) : Engine :=
  { e with memory := e.memory.release (keyOf h sheet r) }

/-- The engine without trees of formulas. -/
def clearCache (e : Engine) : Engine :=
  { e with memory := { e.memory with cache := e.memory.cache.clear } }

/-- The engine with a function, in place of any other with its name. -/
def register (e : Engine) (f : Function) : Engine :=
  { e.clearCache with registry := e.registry.register f }

/-- The number of trees that are kept. -/
def cached (e : Engine) : Nat := e.memory.cache.size

/-- How often a formula was parsed. -/
def parsed (e : Engine) : Nat := e.memory.parsed

end Engine

end Spreadsheet
