import Spreadsheet.Grid.Worksheet

/-!
# Workbooks

A workbook is a list of worksheets, one of which is selected.  Names are
compared as they are written, and a workbook takes no sheet whose name another
one has, is empty or too long, or holds one of seven characters.  A workbook is
changed in place.
-/

namespace Spreadsheet.Grid

/-- An ordered collection of worksheets. -/
structure Workbook where
  /-- The worksheets. -/
  sheets : List Worksheet
  /-- The index of the selected sheet. -/
  selected : Nat := 0
deriving DecidableEq

namespace Workbook

/-- The greatest number of characters in a sheet name. -/
def maxNameLength : Nat := 31

/-- The characters that no sheet name may hold. -/
def forbidden : List Char := ['\\', '/', '?', '*', '[', ']', ':']

/-- A workbook with one sheet. -/
def new : Workbook := ⟨[⟨"Sheet1", 100, 26, [], [], []⟩], 0⟩

/-- A workbook without sheets. -/
def empty : Workbook := ⟨[], 0⟩

/-- The index of the sheet with a name. -/
def sheetIndex? (b : Workbook) (name : String) : Option Nat :=
  b.sheets.findIdx? fun w => w.name == name

/-- Checks that a text can name a further sheet. -/
def checkName (b : Workbook) (name : String) : Except Error Unit :=
  if name.isEmpty then .error (.sheetName .empty)
  else if maxNameLength < name.toList.length then .error (.sheetName (.tooLong maxNameLength))
  else
    match name.toList.find? forbidden.contains with
    | some c => .error (.sheetName (.forbidden c))
    | none =>
      if (b.sheetIndex? name).isSome then .error (.duplicateName name) else .ok ()

/-- The worksheet with an index. -/
def sheet (b : Workbook) (index : Nat) : Except Error Worksheet :=
  match b.sheets[index]? with
  | some w => .ok w
  | none => .error (.sheetOutOfBounds index b.sheets.length)

/-- The workbook with a worksheet changed, if there is one with the index. -/
def modifySheet (b : Workbook) (index : Nat) (f : Worksheet → Worksheet) : Workbook :=
  { b with sheets := b.sheets.modify index f }

/-- The workbook with a selection that is within its sheets, or zero if there are none. -/
def clampSelection (b : Workbook) : Workbook :=
  if b.sheets.length ≤ b.selected then { b with selected := b.sheets.length - 1 } else b

/-! ## Changes -/

namespace InPlace

/-- Adds a worksheet at the end.  The result is its index. -/
def add (w : Worksheet) : Change Workbook Nat := do
  Change.check ((← get).checkName w.name)
  modify fun b => { b with sheets := b.sheets ++ [w] }
  return (← get).sheets.length - 1

/-- Adds a new worksheet at the end.  The result is its index. -/
def addNamed (name : String) : Change Workbook Nat := add { name := name }

/-- Removes a worksheet, which is the result.  The selection stays within the sheets left. -/
def remove (index : Nat) : Change Workbook Worksheet := do
  let w ← Change.check ((← get).sheet index)
  modify fun b => { b with sheets := b.sheets.eraseIdx index }
  modify clampSelection
  return w

/-- Gives another name to a worksheet.  Its own name is allowed. -/
def rename (index : Nat) (name : String) : Change Workbook Unit := do
  let w ← Change.check ((← get).sheet index)
  unless w.name == name do Change.check ((← get).checkName name)
  modify fun b => b.modifySheet index (·.rename name)

/-- Selects another sheet. -/
def select (index : Nat) : Change Workbook Unit := do
  discard <| Change.check ((← get).sheet index)
  modify fun b => { b with selected := index }

/-- Changes a worksheet, if there is one with the index. -/
def onSheet {α : Type} (index : Nat) (c : Change Worksheet α) : Change Workbook (Option α) :=
  fun b =>
    match b.sheets[index]? with
    | none => .ok none b
    | some w =>
      match c w with
      | .ok a w => .ok (some a) (b.modifySheet index fun _ => w)
      | .error e w => .error e (b.modifySheet index fun _ => w)

/-- Changes the first worksheet with a name, if there is one. -/
def onSheetNamed {α : Type} (name : String) (c : Change Worksheet α) :
    Change Workbook (Option α) := do
  match (← get).sheetIndex? name with
  | none => return none
  | some index => onSheet index c

end InPlace

/-- The workbook with a worksheet added at the end. -/
def add (b : Workbook) (w : Worksheet) : Except Error Workbook := (InPlace.add w).result b

/-- The workbook with a new worksheet added at the end. -/
def addNamed (b : Workbook) (name : String) : Except Error Workbook :=
  (InPlace.addNamed name).result b

/-- A worksheet, and the workbook without it. -/
def remove (b : Workbook) (index : Nat) : Except Error (Worksheet × Workbook) :=
  (InPlace.remove index).outcome b

/-- The workbook with a worksheet under another name. -/
def rename (b : Workbook) (index : Nat) (name : String) : Except Error Workbook :=
  (InPlace.rename index name).result b

/-- The workbook with another sheet selected. -/
def select (b : Workbook) (index : Nat) : Except Error Workbook := (InPlace.select index).result b

/-! ## Tests -/

example : (new.addNamed "Sheet1").toOption = none := by decide +kernel
example : ((new.addNamed "b").bind (·.remove 0)).toOption.map (·.2.sheets.map (·.name))
    = some ["b"] := by decide +kernel
example : (new.rename 0 "a/b").toOption = none := by decide +kernel

end Workbook

end Spreadsheet.Grid
