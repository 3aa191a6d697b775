import Spreadsheet.Evaluation.Argument
import Spreadsheet.Value.Annuity

/-!
# Functions on annuities
-/

namespace Spreadsheet.Functions

open Spreadsheet.Evaluation (Argument Program numberAt optionalNumber)
open Spreadsheet.Value (Annuity)

/-- The interest rate of an annuity. -/
def rate (arguments : List Argument) : Program Value := do
  let periods ← numberAt arguments 0
  let payment ← numberAt arguments 1
  let present ← numberAt arguments 2
  let future ← optionalNumber arguments 3 0.0
  let due ← optionalNumber arguments 4 0.0
  let guess ← optionalNumber arguments 5 0.1
  let a : Annuity := ⟨periods, payment, present, future, if due != 0.0 then 1.0 else 0.0⟩
  return .number (← .ofExcept (a.rate guess))

end Spreadsheet.Functions
