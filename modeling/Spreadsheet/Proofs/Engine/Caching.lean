import Mathlib.Data.List.Induction
import Spreadsheet.Proofs.Engine.Keeping

/-!
# Trees of formulas that are kept

An engine keeps the trees of formulas, and whether it has one does not show in
its results.  A kept tree is the one that the functions of the engine give for
its text (`treesOf`).  What has to be shown is that nothing an engine does breaks
this, although formulas are parsed and kept while others are being computed, and
although the parser is told where a formula stands.

* A tree is kept only after its text was parsed with success.  For a host that
  knows no names the parser then asked for nothing, so the tree does not depend
  on the place or on the cells (`fits_of_knowsNoNames`).
* A computation that ends in an error leaves the kept trees sound and holds the
  keys that it held before, at every level of nesting (`readerAt_gives`).
* Registering a function drops all trees.

So in every engine that has been reached by any calls, with any hosts in
between, the trees are sound and no key is held (`Engine.Reached.atRest`).  Its
results are those of the formulas without memory, and these are the same for all
settings.
-/

namespace Spreadsheet

open Spreadsheet.Evaluation
open Spreadsheet.Formula (Error Expr Function Mirrors Refusal Registry)

/-! ## Lost programs -/

/-- A program that never gives anything, whatever it is answered. -/
def Evaluation.Program.Lost {α : Type} : Program α → Prop
  | .done _ => False
  | .fail _ => True
  | .readCell _ next => ∀ v, (next v).Lost
  | .readCells _ _ next => ∀ vs, (next vs).Lost

namespace Evaluation.Program.Lost

variable {α β : Type}

theorem bind {p : Program α} (f : α → Program β) (h : p.Lost) : (p >>= f).Lost := by
  induction p with
  | done a => exact h.elim
  | fail e => trivial
  | readCell r next ih => exact fun v => ih v (h v)
  | readCells r hidden next ih => exact fun vs => ih vs (h vs)

/-- A program that goes on to fail is lost. -/
theorem bind_fail (p : Program α) (e : Error) : (p >>= fun _ => (.fail e : Program β)).Lost := by
  induction p with
  | done a => trivial
  | fail e => trivial
  | readCell r next ih => exact fun v => ih v
  | readCells r hidden next ih => exact fun vs => ih vs

open Engine in
/-- Whoever answers a lost program, running it gives nothing. -/
theorem run_ne_ok {p : Program α} (h : p.Lost) (r : Reader) (m : Memory) (a : α) :
    (run r p m).1 ≠ .ok a := by
  induction p generalizing m with
  | done b => exact h.elim
  | fail e => simp [run]
  | readCell ref next ih =>
    simp only [run]
    generalize r.cell ref m = answer
    obtain ⟨e | v, m'⟩ := answer
    · simp
    · exact ih v (h v) m'
  | readCells ref hidden next ih =>
    simp only [run]
    generalize r.cells ref hidden m = answer
    obtain ⟨e | vs, m'⟩ := answer
    · simp
    · exact ih vs (h vs) m'

end Evaluation.Program.Lost

namespace Engine

/-- Lost programs as those that parsing without a host may lead to. -/
def lost : Refusal where
  holds p := p.Lost
  bind f h := h.bind f
  fail _ := trivial

/-- For a host that knows no names, parsing gives the tree that the functions give for the text, or
it is lost. -/
theorem parse_lost {s : Surroundings} (hs : s.host.KnowsNoNames) (c : Context) (body : String) :
    Mirrors lost (Expr.MadeOf .all) (s.parse c body) (Formula.parse s.registry body) := by
  apply parse_mirrors hs
  · exact fun _ => trivial
  · exact fun _ => Program.Lost.bind_fail _ _
  · exact Formula.supplies_all _ _

/-- Parsing reads no cells for a text that has a tree. -/
theorem parse_eq_done {s : Surroundings} (hs : s.host.KnowsNoNames) (c : Context) {body : String}
    {e : Expr} (h : Formula.parse s.registry body = .ok e) : s.parse c body = .done e := by
  have hparse := parse_lost hs c body
  rw [h] at hparse
  exact hparse.1

/-- Whatever parsing is answered, it gives no other tree. -/
theorem parse_of_run {s : Surroundings} (hs : s.host.KnowsNoNames) {c : Context} {body : String}
    {r : Reader} {m : Memory} {e : Expr} (h : (run r (s.parse c body) m).1 = .ok e) :
    Formula.parse s.registry body = .ok e := by
  have hparse := parse_lost hs c body
  cases htree : Formula.parse s.registry body with
  | ok e' =>
    rw [htree] at hparse
    rw [hparse.1] at h
    exact h
  | error e' =>
    rw [htree] at hparse
    exact absurd h (hparse.run_ne_ok r m e)

/-! ## Trees without a host -/

/-- The trees that functions give for texts. -/
def treesOf (registry : Registry) : Trees := fun text e =>
  ∃ body, formulaBody? text = some body ∧ Formula.parse registry body = .ok e

/-- For a host that knows no names, the trees that the functions give fit any texts. -/
theorem fits_of_knowsNoNames {s : Surroundings} (hs : s.host.KnowsNoNames) :
    Fits (treesOf s.registry) (fun _ => True) s where
  kept := fun hbody h => ⟨_, hbody, parse_of_run hs h⟩
  given := by
    rintro text body e - ⟨body', hbody', he⟩ hbody c q
    obtain rfl : body = body' := Option.some.inj (hbody.symm.trans hbody')
    rw [parse_eq_done hs c he]
    rfl
  cells := fun _ => trivial

/-- An engine that holds no key and keeps the trees that its functions give. -/
abbrev AtRest (e : Engine) : Prop := e.RestsWith (treesOf e.registry)

theorem registry_tryEvaluate (e : Engine) (h : Host) (text : String) (o : Options) :
    (e.tryEvaluate h text o).2.registry = e.registry := by
  simp only [Engine.tryEvaluate, Engine.after]

theorem registry_evaluate (e : Engine) (h : Host) (text : String) (o : Options) :
    (e.evaluate h text o).2.registry = e.registry := by
  rw [evaluate_eq, registry_tryEvaluate]

theorem registry_cellValue (e : Engine) (h : Host) (sheet row column : Nat) (display : Bool) :
    (e.cellValue h sheet row column display).2.registry = e.registry := by
  simp only [cellValue_eq, Engine.after]

namespace AtRest

variable {e : Engine} (he : e.AtRest) {h : Host} (hh : h.KnowsNoNames)
include he hh

omit he in
theorem fits : Fits (treesOf e.registry) (fun _ => True) (e.surroundings h) :=
  fits_of_knowsNoNames (s := e.surroundings h) hh

/-- An engine at rest computes the outcome of a text and is at rest again, even if the outcome is an
error. -/
theorem tryEvaluate (text : String) (o : Options) :
    (e.tryEvaluate h text o).1 = outcome e.registry h text o ∧
      (e.tryEvaluate h text o).2.AtRest := by
  refine ⟨RestsWith.tryEvaluate_eq_outcome he (fits hh) trivial o, ?_⟩
  rw [AtRest, registry_tryEvaluate]
  exact he.afterText (fits hh).toAdmits text o

theorem evaluate (text : String) (o : Options) :
    (e.evaluate h text o).1 = orErrorText (outcome e.registry h text o) ∧
      (e.evaluate h text o).2.AtRest := by
  simp only [evaluate_eq, (he.tryEvaluate hh text o).1, true_and]
  exact (he.tryEvaluate hh text o).2

theorem cellValue (sheet row column : Nat) (display : Bool) :
    (e.cellValue h sheet row column display).1 =
        shown h sheet row column display (value e.registry h sheet row column) ∧
      (e.cellValue h sheet row column display).2.AtRest := by
  refine ⟨RestsWith.cellValue_eq_value he (fits hh) sheet row column display, ?_⟩
  rw [AtRest, registry_cellValue]
  exact he.afterCell (fits hh).toAdmits sheet row column display

end AtRest

/-! ## Runs -/

/-- The engines that calls can lead to, with the functions that were registered on the way.  Each
call has a host of its own, so cells may have changed in between. -/
inductive Reached (settings : Settings) : List Function → Engine → Prop where
  /-- An engine that has computed nothing yet. -/
  | new : Reached settings [] (.new settings)
  /-- A text is computed. -/
  | tryEvaluate {fs e h} (text o) :
    Reached settings fs e → h.KnowsNoNames → Reached settings fs (e.tryEvaluate h text o).2
  /-- A text is computed, with errors as texts. -/
  | evaluate {fs e h} (text o) :
    Reached settings fs e → h.KnowsNoNames → Reached settings fs (e.evaluate h text o).2
  /-- The value of a cell is computed. -/
  | cellValue {fs e h} (sheet row column display) :
    Reached settings fs e → h.KnowsNoNames →
      Reached settings fs (e.cellValue h sheet row column display).2
  /-- All trees are dropped. -/
  | clearCache {fs e} : Reached settings fs e → Reached settings fs e.clearCache
  /-- A function is registered. -/
  | register {fs e} (f) : Reached settings fs e → Reached settings (fs ++ [f]) (e.register f)

/-- The functions of an engine after some were registered. -/
def registryOf (fs : List Function) : Registry := fs.foldl Registry.register .standard

/-- What registering keeps holds after functions were registered one after the other. -/
theorem foldl_register_of {P : List Function → Engine → Prop} {e : Engine} (he : P [] e)
    (hregister : ∀ fs e f, P fs e → P (fs ++ [f]) (e.register f)) (fs : List Function) :
    P fs (fs.foldl Engine.register e) := by
  induction fs using List.reverseRecOn with
  | nil => exact he
  | append_singleton fs f ih =>
    rw [List.foldl_concat]
    exact hregister fs _ f ih

theorem AtRest.new (settings : Settings) : (Engine.new settings).AtRest :=
  ⟨rfl, List.forall_mem_nil _⟩

theorem AtRest.clearCache {e : Engine} (he : e.AtRest) : e.clearCache.AtRest :=
  ⟨he.held, List.forall_mem_nil _⟩

theorem AtRest.register {e : Engine} (he : e.AtRest) (f : Function) : (e.register f).AtRest :=
  ⟨he.held, List.forall_mem_nil _⟩

namespace Reached

variable {settings : Settings} {fs : List Function} {e : Engine}

/-- An engine is at rest after any calls, and it has the functions that were registered. -/
theorem atRest (he : Reached settings fs e) : e.AtRest ∧ e.registry = registryOf fs := by
  induction he with
  | new => exact ⟨.new settings, rfl⟩
  | tryEvaluate text o _ hh ih =>
    refine ⟨(ih.1.tryEvaluate hh text o).2, ?_⟩
    rw [registry_tryEvaluate, ih.2]
  | evaluate text o _ hh ih =>
    refine ⟨(ih.1.evaluate hh text o).2, ?_⟩
    rw [registry_evaluate, ih.2]
  | cellValue sheet row column display _ hh ih =>
    refine ⟨(ih.1.cellValue hh sheet row column display).2, ?_⟩
    rw [registry_cellValue, ih.2]
  | clearCache _ ih => exact ⟨ih.1.clearCache, ih.2⟩
  | register f _ ih =>
    refine ⟨ih.1.register f, ?_⟩
    rw [registryOf, List.foldl_concat]
    exact congrArg (Registry.register · f) ih.2

/-- Registering functions one after the other leads to an engine. -/
theorem foldl_register (he : Reached settings [] e) (fs : List Function) :
    Reached settings fs (fs.foldl Engine.register e) :=
  foldl_register_of he (fun _ _ f => .register f) fs

/-- Neither the trees that an engine keeps nor its settings show in its results.  After any calls it
gives what a new engine with the same functions gives. -/
theorem results_eq_new (he : Reached settings fs e) (settings' : Settings) {h : Host}
    (hh : h.KnowsNoNames) :
    let fresh := fs.foldl Engine.register (.new settings')
    (∀ text o, (e.tryEvaluate h text o).1 = (fresh.tryEvaluate h text o).1) ∧
      (∀ text o, (e.evaluate h text o).1 = (fresh.evaluate h text o).1) ∧
      ∀ sheet row column display,
        (e.cellValue h sheet row column display).1 =
          (fresh.cellValue h sheet row column display).1 := by
  intro fresh
  obtain ⟨hrest, hregistry⟩ := he.atRest
  obtain ⟨hfresh, hregistry'⟩ := (foldl_register (e := .new settings') .new fs).atRest
  refine ⟨fun text o => ?_, fun text o => ?_, fun sheet row column display => ?_⟩
  · rw [(hrest.tryEvaluate hh text o).1, (hfresh.tryEvaluate hh text o).1, hregistry, hregistry']
  · rw [(hrest.evaluate hh text o).1, (hfresh.evaluate hh text o).1, hregistry, hregistry']
  · rw [(hrest.cellValue hh sheet row column display).1,
      (hfresh.cellValue hh sheet row column display).1, hregistry, hregistry']

/-- A function is registered after a formula with its name was parsed and kept. -/
theorem results_eq_new_of_replaced_sum :
    let seven : Function := ⟨⟨"SUM", 0, none⟩, .foreign fun _ => .ok (.number 7.0)⟩
    let h := Grid.Workbook.new.host
    let e := ((Engine.new { capacity := 1 }).tryEvaluate h "=SUM(A1)" {}).2.register seven
    let fresh := [seven].foldl Engine.register (.new { cacheEnabled := false })
    Reached { capacity := 1 } [seven] e ∧ h.KnowsNoNames ∧
      (e.tryEvaluate h "=SUM(A1)" {}).1 = (fresh.tryEvaluate h "=SUM(A1)" {}).1 := by
  intro seven h e fresh
  have hh : h.KnowsNoNames := Grid.Workbook.host_knowsNoNames _
  have he : Reached { capacity := 1 } [seven] e := .register seven (.tryEvaluate _ _ .new hh)
  exact ⟨he, hh, (results_eq_new he { cacheEnabled := false } hh).1 "=SUM(A1)" {}⟩

end Reached

end Engine

end Spreadsheet
