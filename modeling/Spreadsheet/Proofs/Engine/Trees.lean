import Spreadsheet.Proofs.Engine.Nesting

/-!
# Results from trees

An engine at rest gives for a formula what its tree gives under the answers of
all cells (`answers`).  So a statement about a formula that is told by its tree
needs neither the parser nor the memory of the engine.  The same answers are
what any program gets that the engine runs, and what it reads off a range.
-/

namespace Spreadsheet.Engine

open Spreadsheet.Evaluation
open Spreadsheet.Formula (Builtin Error Expr Function Reference Registry)

/-- The outcome of a formula is that of its tree. -/
theorem outcome_of_tree {s : Surroundings} (hs : s.host.KnowsNoNames) {text : String} {e : Expr}
    (he : treesOf s.registry text e) (answers : Nat → Answers) (o : Options) :
    s.outcome answers text o =
      ((settled (s.context o) e).under (answers (o.sheet.getD s.host.selected))).map
        (formatted s o.format) := by
  obtain ⟨body, hbody, hparse⟩ := he
  have hformula : s.formula (s.context o) body = settled (s.context o) e := by
    rw [Surroundings.formula, parse_eq_done hs _ hparse]
    rfl
  simp only [Surroundings.outcome, hbody, hformula]

/-- Without a format a result stays as it is. -/
theorem map_formatted_none (s : Surroundings) (x : Except Error Value) :
    x.map (formatted s none) = x := by
  cases x <;> rfl

/-- What a reference in the place of a result is replaced by. -/
def settledValue (q : Answers) : Value → Except Error Value
  | .reference r => q.cell r
  | v => .ok v

theorem settled_under (q : Answers) (c : Context) (e : Expr) :
    (settled c e).under q = (Evaluation.evaluate c e).under q >>= settledValue q := by
  unfold settled
  rw [Program.bind_eq, Program.under_bind]
  refine congrArg _ (funext fun v => ?_)
  cases v with
  | reference r => exact Program.under_cell q r
  | _ => rfl

/-- Each argument of a call is an argument on its own. -/
theorem argumentsOf_eq_map (c : Context) (es : List Expr) :
    argumentsOf c es = es.map (argumentOf c) := by
  induction es with
  | nil => rfl
  | cons e es ih => exact congrArg _ ih

/-- A call of a function that is built in computes that function. -/
theorem evaluate_call {f : Function} {b : Builtin} (hf : f.body = .builtin b) (c : Context)
    (es : List Expr) :
    Evaluation.evaluate c (.call f es) = applyBuiltin c (argumentsOf c es) b := by
  simp only [Evaluation.evaluate, argumentOf, Argument.result, applyFunction, hf]

/-! ## Engines at rest -/

/-- What a formula on a sheet is answered with the functions of an engine. -/
def answers (registry : Registry) (h : Host) (sheet : Nat) : Answers :=
  answersAt ⟨registry, {}, h⟩ (keyBound h) [] sheet

/-- Where readers solve their equation, one that is asked for the cells of a reference reads
them. -/
theorem Unlimited.cells_eq {s : Surroundings} {readers : Nat → Reader} (h : Unlimited s readers)
    (sheet : Nat) (r : Reference) (hidden : Bool) (m : Memory) :
    (readers sheet).cells r hidden m = readCells s readers sheet r hidden none m :=
  congrArg (fun reader => reader.cells r hidden m) (h sheet)

namespace AtRest

variable {e : Engine} (he : e.AtRest) {h : Host} (hh : h.KnowsNoNames)
include he hh

omit he in
theorem reader_gives (sheet : Nat) :
    (e.reader h sheet).Gives (treesOf e.registry) [] (answers e.registry h sheet) := by
  have hgives := Engine.reader_gives (fits (e := e) hh) [] sheet
  rwa [surroundings, answersAt_settings e.registry h e.settings {}] at hgives

/-- A program that an engine runs gets the answers of all cells. -/
theorem runProgram {α : Type} (sheet : Nat) (p : Program α) :
    (e.runProgram h sheet p).1 = p.under (answers e.registry h sheet) :=
  run_computes (reader_gives hh sheet) p e.memory he.held he.sound

/-- The values that an engine reads off a range are among the answers. -/
theorem rangeValues (sheet : Nat) (r : Reference) (hidden : Bool) :
    (e.rangeValues h sheet r hidden none).1 = (answers e.registry h sheet).cells r hidden := by
  have hunlimited : Unlimited (e.surroundings h) (e.reader h) := by
    rw [reader_eq]
    exact unlimited_readerAt (e.surroundings h)
  have hresult := (reader_gives hh sheet).all r hidden e.memory he.held he.sound
  rw [Engine.rangeValues, after_fst, ← hunlimited.cells_eq, hresult]

/-- An engine gives for a formula what its tree gives, in the format of the options. -/
theorem tryEvaluate_eq_map {text : String} {tree : Expr} (htree : treesOf e.registry text tree)
    (o : Options) :
    (e.tryEvaluate h text o).1 =
      ((settled ((e.surroundings h).context o) tree).under
        (answers e.registry h (o.sheet.getD h.selected))).map
          (formatted (e.surroundings h) o.format) := by
  rw [(he.tryEvaluate hh text o).1, outcome, outcome_of_tree (s := ⟨e.registry, {}, h⟩) hh htree]
  rfl

/-- An engine gives for a formula what its tree gives. -/
theorem tryEvaluate_of_tree {text : String} {tree : Expr} (htree : treesOf e.registry text tree)
    {o : Options} (ho : o.format = none) :
    (e.tryEvaluate h text o).1 =
      (settled ((e.surroundings h).context o) tree).under
        (answers e.registry h (o.sheet.getD h.selected)) := by
  rw [he.tryEvaluate_eq_map hh htree, ho, map_formatted_none]

/-- An engine gives for a call what the function gives. -/
theorem tryEvaluate_of_call {f : Function} {b : Builtin} (hf : f.body = .builtin b) {text : String}
    {es : List Expr} (htree : treesOf e.registry text (.call f es)) {o : Options}
    (ho : o.format = none) :
    (e.tryEvaluate h text o).1 =
      (applyBuiltin ((e.surroundings h).context o)
        (argumentsOf ((e.surroundings h).context o) es) b).under
          (answers e.registry h (o.sheet.getD h.selected)) >>=
            settledValue (answers e.registry h (o.sheet.getD h.selected)) := by
  rw [he.tryEvaluate_of_tree hh htree ho, settled_under, evaluate_call hf]

end AtRest

end Spreadsheet.Engine
