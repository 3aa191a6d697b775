import Spreadsheet.Value.Display

/-!
# The surroundings of a formula

Apart from cells, a few functions depend on where and when a formula is
computed: the cell it belongs to, the way its host displays values, the present
moment and a random number.
-/

namespace Spreadsheet.Evaluation

/-- Where and when a formula is computed. -/
structure Context where
  /-- The row of the cell that the formula belongs to, if it belongs to one. -/
  row : Option Nat := none
  /-- The column of that cell. -/
  column : Option Nat := none
  /-- The text of a value in a display format. -/
  render : Value → String → String := Value.display
  /-- The present moment. -/
  now : Calendar.Moment := ⟨⟨0⟩, 0, 0⟩
  /-- A random number from 0, included, to 1, excluded. -/
  draw : Float := 0.0

end Spreadsheet.Evaluation
