import Spreadsheet.Proofs.Engine.Caching
import Spreadsheet.Proofs.Evaluation.Fixed

/-!
# Names that the host knows

The value that a host gives for a name takes the place of the name in the tree.
So it is computed when a formula is parsed, and a tree that is kept holds the
value for the arguments of that time.  When cells have changed since, this shows
(`tryEvaluate_ne_new_after_edit`).

It does not show for texts that are *steady*: parsing asks for no cells and gives
the same tree wherever the text stands, or it never gives one (`Steady`).  For
such a text, and with steady formulas in cells, an engine gives what a new one
gives, whatever it has computed before (`ReachedKnowing.tryEvaluate_eq_new`).
Texts that are not steady may well be among what it has computed.

* All texts are steady for a host that knows no names.
* A formula is steady when its names are given fixed arguments only, which is a
  matter of parsing it once (`steady_of_fixed`).
-/

namespace Spreadsheet.Engine

open Spreadsheet.Evaluation
open Spreadsheet.Formula (Error Expr Function Mirrors Refusal Registry)

/-- The values of the names that a host knows, given the arguments. -/
def Names : Type := String → List Value → Option Value

/-! ## Parsing with names -/

/-- Parses a formula without its `=` for a host that knows names. -/
def parseKnowing (registry : Registry) (names : Names) (c : Context) (body : String) :
    Program Expr :=
  Formula.parseWith registry
    (fun name es => do
      match names name (← rawValues c es) with
      | some v => return v
      | none => .fail (.unknownFunction name))
    body

theorem parse_eq_parseKnowing (s : Surroundings) (c : Context) (body : String) :
    s.parse c body = parseKnowing s.registry s.host.resolve? c body := rfl

section

variable (registry : Registry) (names : Names)

/-- Wherever a formula without its `=` is parsed, this asks for nothing and gives the tree, or it
never gives one. -/
def ParsesTo (body : String) : Option Expr → Prop
  | some e => ∀ c, parseKnowing registry names c body = .done e
  | none => ∀ c, (parseKnowing registry names c body).Lost

/-- The formula of a text always has the same tree, or never one. -/
def Steady (text : String) : Prop :=
  ∀ body, formulaBody? text = some body → ∃ tree, ParsesTo registry names body tree

/-- The trees that may be kept: for a steady text only its own. -/
def treesKnowing : Trees := fun text e =>
  ∀ {body tree}, formulaBody? text = some body → ParsesTo registry names body tree → tree = some e

end

/-- A host that knows the names, with steady formulas in its cells. -/
structure SteadyHost (registry : Registry) (names : Names) (h : Host) : Prop where
  /-- It knows the names. -/
  knows : h.resolve? = names
  /-- The formulas in its cells are steady. -/
  cells : ∀ {i row column text}, h.content i row column = .formula text →
    Steady registry names text

section

variable {names : Names} {s : Surroundings}

/-- Whatever tree a host with the names comes to, it is the only one of a steady text. -/
theorem admits_of_knows (hs : s.host.resolve? = names) :
    Admits (treesKnowing s.registry names) s where
  kept := by
    intro text body c r m e hbody he body' tree hbody' htree
    obtain rfl : body = body' := Option.some.inj (hbody.symm.trans hbody')
    rw [parse_eq_parseKnowing, hs] at he
    cases tree with
    | none => exact absurd he ((htree c).run_ne_ok r m e)
    | some e' =>
      rw [htree c] at he
      exact congrArg some (Except.ok.inj he)

/-- The trees fit steady texts. -/
theorem SteadyHost.fits (hs : SteadyHost s.registry names s.host) :
    Fits (treesKnowing s.registry names) (Steady s.registry names) s where
  toAdmits := admits_of_knows hs.knows
  given := by
    intro text body e htext he hbody c q
    obtain ⟨tree, htree⟩ := htext body hbody
    obtain rfl : tree = some e := he hbody htree
    rw [parse_eq_parseKnowing, hs.knows, htree c]
    rfl
  cells := hs.cells

end

/-! ## Runs -/

/-- The engines that calls can lead to, with the functions that were registered on the way, where
all hosts know the same names.  Cells may have changed between calls. -/
inductive ReachedKnowing (names : Names) (settings : Settings) : List Function → Engine → Prop where
  /-- An engine that has computed nothing yet. -/
  | new : ReachedKnowing names settings [] (.new settings)
  /-- A text is computed. -/
  | tryEvaluate {fs e h} (text o) :
    ReachedKnowing names settings fs e → h.resolve? = names →
      ReachedKnowing names settings fs (e.tryEvaluate h text o).2
  /-- A text is computed, with errors as texts. -/
  | evaluate {fs e h} (text o) :
    ReachedKnowing names settings fs e → h.resolve? = names →
      ReachedKnowing names settings fs (e.evaluate h text o).2
  /-- The value of a cell is computed. -/
  | cellValue {fs e h} (sheet row column display) :
    ReachedKnowing names settings fs e → h.resolve? = names →
      ReachedKnowing names settings fs (e.cellValue h sheet row column display).2
  /-- All trees are dropped. -/
  | clearCache {fs e} :
    ReachedKnowing names settings fs e → ReachedKnowing names settings fs e.clearCache
  /-- A function is registered. -/
  | register {fs e} (f) :
    ReachedKnowing names settings fs e → ReachedKnowing names settings (fs ++ [f]) (e.register f)

namespace ReachedKnowing

variable {names : Names} {settings : Settings} {fs : List Function} {e : Engine}

/-- The steady texts among those that trees are kept for have their own trees. -/
theorem restsWith (he : ReachedKnowing names settings fs e) :
    e.RestsWith (treesKnowing e.registry names) ∧ e.registry = registryOf fs := by
  induction he with
  | new => exact ⟨⟨rfl, List.forall_mem_nil _⟩, rfl⟩
  | @tryEvaluate fs e h text o _ hh ih =>
    rw [registry_tryEvaluate]
    exact ⟨ih.1.afterText (admits_of_knows (s := e.surroundings h) hh) text o, ih.2⟩
  | @evaluate fs e h text o _ hh ih =>
    rw [registry_evaluate, evaluate_eq]
    exact ⟨ih.1.afterText (admits_of_knows (s := e.surroundings h) hh) text o, ih.2⟩
  | @cellValue fs e h sheet row column display _ hh ih =>
    rw [registry_cellValue]
    exact ⟨ih.1.afterCell (admits_of_knows (s := e.surroundings h) hh) sheet row column display,
      ih.2⟩
  | clearCache _ ih => exact ⟨⟨ih.1.held, List.forall_mem_nil _⟩, ih.2⟩
  | register f _ ih =>
    refine ⟨⟨ih.1.held, List.forall_mem_nil _⟩, ?_⟩
    rw [registryOf, List.foldl_concat]
    exact congrArg (Registry.register · f) ih.2

/-- Registering functions one after the other leads to an engine. -/
theorem foldl_register (he : ReachedKnowing names settings [] e) (fs : List Function) :
    ReachedKnowing names settings fs (fs.foldl Engine.register e) :=
  foldl_register_of he (fun _ _ f => .register f) fs

/-- A steady text has the outcome of its formula, whatever trees an engine keeps. -/
theorem tryEvaluate_eq_outcome (he : ReachedKnowing names settings fs e) {h : Host}
    (hh : SteadyHost (registryOf fs) names h) {text : String}
    (htext : Steady (registryOf fs) names text) (o : Options) :
    (e.tryEvaluate h text o).1 = outcome (registryOf fs) h text o := by
  obtain ⟨hrest, hregistry⟩ := he.restsWith
  rw [← hregistry] at hh htext ⊢
  exact hrest.tryEvaluate_eq_outcome (SteadyHost.fits (s := e.surroundings h) hh) htext o

end ReachedKnowing

/-! ## Steady texts -/

/-- All texts are steady if no name is known. -/
theorem steady_of_none (registry : Registry) {names : Names}
    (hnames : ∀ name values, names name values = none) (text : String) :
    Steady registry names text := by
  intro body _
  let s : Surroundings := ⟨registry, {}, { Grid.Workbook.new.host with resolve? := names }⟩
  have hparse (c : Context) : Mirrors lost (Expr.MadeOf .all) (parseKnowing registry names c body)
      (Formula.parse registry body) := parse_lost (s := s) hnames c body
  cases htree : Formula.parse registry body with
  | ok e =>
    refine ⟨some e, fun c => ?_⟩
    have h := hparse c
    rw [htree] at h
    exact h.1
  | error e =>
    refine ⟨none, fun c => ?_⟩
    have h := hparse c
    rw [htree] at h
    exact h

/-- The value of a name whose arguments are fixed. -/
def fixedName (names : Names) (name : String) (es : List Expr) : Except Error Value :=
  match rawValues {} es with
  | .done values =>
    if Expr.areFixed es then
      match names name values with
      | some v => .ok v
      | none => .error (.unknownFunction name)
    else .error (.unknownFunction name)
  | _ => .error (.unknownFunction name)

/-- Any program, as those that parsing may lead to where names have other arguments. -/
def anything : Refusal where
  holds _ := True
  bind _ _ := trivial
  fail _ := trivial

theorem fixedName_mirrors (names : Names) (c : Context) (name : String) (es : List Expr) :
    Mirrors anything (fun _ => True)
      (do
        match names name (← rawValues c es) with
        | some v => return v
        | none => .fail (.unknownFunction name) : Program Value)
      (fixedName names name es) := by
  unfold fixedName
  split
  next values hvalues =>
    split
    next hfixed =>
      rw [rawValues_fixed c {} hfixed, hvalues, Program.bind_eq, Program.bind]
      cases names name values with
      | some v => exact ⟨rfl, trivial⟩
      | none => trivial
    next => trivial
  next => trivial

/-- A formula is steady if it can be parsed with fixed arguments for all names. -/
theorem steady_of_fixed {registry : Registry} {names : Names} {text : String} (body : String)
    (hbody : formulaBody? text = some body)
    (hfixed : (Formula.parseWith registry (fixedName names) body).isOk = true) :
    Steady registry names text := by
  intro body' hbody'
  obtain rfl : body = body' := Option.some.inj (hbody.symm.trans hbody')
  have hparse (c : Context) : Mirrors anything (Expr.MadeOf .all)
      (parseKnowing registry names c body)
      (Formula.parseWith registry (fixedName names) body) :=
    Formula.parseWith_mirrors
      { registry := rfl
        fault := rfl
        function := fun _ => trivial
        resolve := fun _ => fixedName_mirrors names c _ _ }
      (Formula.supplies_all _ _)
  cases he : Formula.parseWith registry (fixedName names) body with
  | ok e =>
    refine ⟨some e, fun c => ?_⟩
    have h := hparse c
    rw [he] at h
    exact h.1
  | error e =>
    rw [he] at hfixed
    cases hfixed

/-! ## Results -/

namespace ReachedKnowing

/-- An engine that has computed anything before, for hosts that know the same names, gives for a
steady text what a new engine with the same functions gives. -/
theorem tryEvaluate_eq_new {names : Names} {settings : Settings} {fs : List Function} {e : Engine}
    (he : ReachedKnowing names settings fs e) (settings' : Settings) {h : Host}
    (hh : SteadyHost (registryOf fs) names h) {text : String}
    (htext : Steady (registryOf fs) names text) (o : Options) :
    (e.tryEvaluate h text o).1 =
      ((fs.foldl Engine.register (.new settings')).tryEvaluate h text o).1 := by
  have hfresh : ReachedKnowing names settings' fs (fs.foldl Engine.register (.new settings')) :=
    foldl_register .new fs
  rw [he.tryEvaluate_eq_outcome hh htext o, hfresh.tryEvaluate_eq_outcome hh htext o]

end ReachedKnowing

/-- A tax rate, and how to double a number. -/
def doubling : Names := fun name values =>
  match name, values with
  | "TAXRATE", [] => some (.number 0.5)
  | "TWICE", [v] => some (.number (2.0 * v.toNumber))
  | _, _ => none

/-- A host that knows these names, on whose sheet every cell of the first column holds a number and
all others a formula. -/
def doublingHost (x : Float) : Host where
  sheetCount := 1
  sheetName? _ := some "a"
  selected := 0
  rows _ := 9
  columns _ := 9
  content _ _ column := if column = 0 then .number x else .formula "=A1*TAXRATE"
  resolve? := doubling

/-- A name whose arguments are fixed stands beside references, and the cells change. -/
theorem ReachedKnowing.tryEvaluate_eq_new_of_fixed_arguments :
    let e := ((Engine.new {}).tryEvaluate (doublingHost 1.0) "=B1+A1*TWICE(SUM(1,2))" {}).2
    ReachedKnowing doubling {} [] e ∧
      SteadyHost .standard doubling (doublingHost 5.0) ∧
      Steady .standard doubling "=B1+A1*TWICE(SUM(1,2))" ∧
      (e.tryEvaluate (doublingHost 5.0) "=B1+A1*TWICE(SUM(1,2))" {}).1 =
        ((Engine.new {}).tryEvaluate (doublingHost 5.0) "=B1+A1*TWICE(SUM(1,2))" {}).1 := by
  intro e
  have he : ReachedKnowing doubling {} [] e := .tryEvaluate _ _ .new rfl
  have htext : Steady .standard doubling "=B1+A1*TWICE(SUM(1,2))" :=
    steady_of_fixed "B1+A1*TWICE(SUM(1,2))" (by decide +kernel) (by decide +kernel)
  have hcell : Steady .standard doubling "=A1*TAXRATE" :=
    steady_of_fixed "A1*TAXRATE" (by decide +kernel) (by decide +kernel)
  have hh : SteadyHost .standard doubling (doublingHost 5.0) := by
    refine ⟨rfl, fun {i row column text} hcontent => ?_⟩
    simp only [doublingHost] at hcontent
    split at hcontent
    · cases hcontent
    · cases hcontent
      exact hcell
  exact ⟨he, hh, htext, tryEvaluate_eq_new he {} hh htext {}⟩

/-- The value of a name for a cell is kept with the tree.  It is no longer the one that a new engine
gives when the cell has changed. -/
theorem tryEvaluate_ne_new_after_edit :
    let e := ((Engine.new {}).tryEvaluate (doublingHost 1.0) "=TWICE(A1)" {}).2
    (e.tryEvaluate (doublingHost 5.0) "=TWICE(A1)" {}).1 = .ok (.number 2.0) ∧
      ((Engine.new {}).tryEvaluate (doublingHost 5.0) "=TWICE(A1)" {}).1 = .ok (.number 10.0) := by
  decide +kernel

end Spreadsheet.Engine
