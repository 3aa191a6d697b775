import Spreadsheet.Proofs.Engine.Accounts
import Spreadsheet.Proofs.Evaluation.Bounds
import Spreadsheet.Proofs.Formula.Counted

/-!
# The number of arguments over a run

Every call in a tree that the parser gives has a number of arguments that the
signature of its function allows, and so has every call in a tree that any calls
on an engine leave in the cache.  It is the function that the call itself holds
which counts.  So it does not matter whether another one was registered under its
name since.

A function that is built in is in bounds with such a number of arguments.  Hence
computing a tree from the cache is in bounds, too, as long as the functions that
were registered are (`Function.CopesWith`).

Both properties of trees are kept in the same way.  They hold of the functions
that there are (`Registry.Suits`), so parsing leads to trees with them, and the
cache holds no other trees (`Engine.Counts`).
-/

namespace Spreadsheet

open Spreadsheet.Evaluation
open Spreadsheet.Formula (Error Expr Function Reference Registry)

/-! ## Computing trees -/

/-- A function can be given so many arguments.  A function that is built in needs a number that its
own signature allows, and one from outside must not report that something was missing. -/
def Formula.Function.CopesWith (f : Function) (count : Nat) : Prop :=
  match f.body with
  | .builtin b => b.signature.Allows count
  | .foreign g => ∀ ps, g ps ≠ .error .missingArgument

namespace Evaluation

theorem parameters_inBounds {args : List Argument} (h : ∀ a ∈ args, a.InBounds) :
    (parameters args).InBounds := by
  induction args with
  | nil => exact .done trivial
  | cons a rest ih =>
    obtain ⟨ha, hrest⟩ := List.forall_mem_cons.1 h
    exact .next ha.operand fun _ => .next (ih hrest) fun _ => .done trivial

theorem applyFunction_inBounds (c : Context) {f : Function} {args : List Argument}
    (hf : f.CopesWith args.length) (h : ∀ a ∈ args, a.InBounds) :
    (applyFunction c f args).InBounds := by
  unfold applyFunction
  unfold Function.CopesWith at hf
  cases hbody : f.body with
  | builtin b =>
    rw [hbody] at hf
    exact applyBuiltin_inBounds c hf h
  | foreign g =>
    rw [hbody] at hf
    refine .next (parameters_inBounds h) fun ps => ?_
    have hps := hf ps
    cases hresult : g ps with
    | ok v => exact .done trivial
    | error e => exact .fail fun he => hps (by rw [hresult, he])

theorem length_argumentsOf (c : Context) (es : List Expr) :
    (argumentsOf c es).length = es.length := by
  induction es with
  | nil => rfl
  | cons e es ih => exact congrArg Nat.succ ih

mutual

theorem argumentOf_inBounds (c : Context) (e : Expr) (h : e.Calls Function.CopesWith) :
    (argumentOf c e).InBounds := by
  cases e with
  | literal v => trivial
  | reference r => trivial
  | signed s e => exact applySign_inBounds s (argumentOf_inBounds c e h)
  | binary op l r =>
    exact applyOperator_inBounds op (argumentOf_inBounds c l h.1) (argumentOf_inBounds c r h.2)
  | call f es =>
    have hf : f.CopesWith (argumentsOf c es).length := (length_argumentsOf c es).symm ▸ h.1
    exact applyFunction_inBounds c hf (argumentsOf_inBounds c es h.2)

theorem argumentsOf_inBounds (c : Context) (es : List Expr)
    (h : Expr.AllCall Function.CopesWith es) : ∀ a ∈ argumentsOf c es, a.InBounds := by
  cases es with
  | nil => exact List.forall_mem_nil _
  | cons e es =>
    exact List.forall_mem_cons.2 ⟨argumentOf_inBounds c e h.1, argumentsOf_inBounds c es h.2⟩

end

end Evaluation

/-- A tree whose functions cope with their arguments is computed in bounds. -/
theorem Engine.settled_inBounds (c : Context) {e : Expr} (h : e.Calls Function.CopesWith) :
    (settled c e).InBounds := by
  refine .next (argumentOf_inBounds c e h).result fun v => ?_
  cases v with
  | reference r => exact .cell r
  | _ => exact .done trivial

/-! ## Parsing -/

/-- Each function goes together with every number of arguments that its signature allows. -/
def Formula.Registry.Suits (ok : Function → Nat → Prop) (registry : Registry) : Prop :=
  ∀ f ∈ registry.functions, ∀ count, f.signature.Allows count → ok f count

theorem Formula.Registry.Suits.standard : Registry.standard.Suits Function.CopesWith := by
  intro f hf count hcount
  obtain ⟨b, -, rfl⟩ := List.mem_map.1 hf
  exact hcount

/-- A function in place of another one copes with what its own signature allows. -/
theorem Formula.Registry.Suits.register {registry : Registry}
    (h : registry.Suits Function.CopesWith) {f : Function}
    (hf : ∀ count, f.signature.Allows count → f.CopesWith count) :
    (registry.register f).Suits Function.CopesWith := by
  intro g hg count hcount
  obtain rfl | hg := List.mem_cons.1 hg
  · exact hf count hcount
  · exact h g (List.mem_of_mem_filter hg) count hcount

namespace Engine

/-- What runs to an end satisfies the condition. -/
theorem post_of_run {α : Type} {allowed : Error → Prop} {post : α → Prop} {p : Program α}
    (hp : p.Ends allowed post) {r : Reader} {m : Memory} {a : α} (h : (run r p m).1 = .ok a) :
    post a := by
  induction p generalizing m with
  | done b =>
    cases h
    exact hp
  | fail e => cases h
  | readCell ref next ih =>
    simp only [run] at h
    generalize r.cell ref m = answer at h
    obtain ⟨e | v, m'⟩ := answer
    · cases h
    · exact ih v (hp v) h
  | readCells ref hidden next ih =>
    simp only [run] at h
    generalize r.cells ref hidden m = answer at h
    obtain ⟨e | vs, m'⟩ := answer
    · cases h
    · exact ih vs (hp vs) h

section

variable {ok : Function → Nat → Prop}

/-- Whatever the host knows, and whatever is answered, the calls of a tree are as they should be. -/
theorem parse_ends {s : Surroundings} (hs : s.registry.Suits ok) (c : Context) (body : String) :
    (s.parse c body).Ends (fun _ => True) (Expr.Calls ok) :=
  Formula.parseWith_ends
    { call := fun hf => hs _ (List.mem_of_find?_eq_some hf) _
      resolve := fun _ => .all _
      allowed := fun _ => trivial }

/-- Without a host it is the same, since a host that knows no names gives the same tree. -/
theorem calls_of_parse {registry : Registry} (hregistry : registry.Suits ok) {body : String}
    {e : Expr} (h : Formula.parse registry body = .ok e) : e.Calls ok := by
  obtain ⟨host, hhost⟩ : ∃ host : Host, host.KnowsNoNames :=
    ⟨_, Grid.Workbook.host_knowsNoNames ⟨[], 0⟩⟩
  have hends := parse_ends (s := ⟨registry, {}, host⟩) hregistry {} body
  rw [parse_eq_done (s := ⟨registry, {}, host⟩) hhost {} h] at hends
  exact hends

/-- The trees whose calls are as they should be. -/
def treesWith (ok : Function → Nat → Prop) : Trees := fun _ e => e.Calls ok

theorem admits_treesWith {s : Surroundings} (hs : s.registry.Suits ok) :
    Admits (treesWith ok) s where
  kept _ he := post_of_run (parse_ends hs _ _) he

/-! ## Runs -/

/-- The functions go together with the numbers of arguments that their signatures allow, and so do
those in the trees that are kept. -/
structure Counts (ok : Function → Nat → Prop) (e : Engine) : Prop where
  /-- The functions that formulas can call. -/
  registry : e.registry.Suits ok
  /-- The trees. -/
  trees : e.memory.Sound (treesWith ok)

theorem Call.registry_after (c : Call) (e : Engine) (hc : ∀ f, c ≠ .register f) :
    (c.after e).registry = e.registry := by
  cases c with
  | tryEvaluate h text o => exact e.registry_tryEvaluate h text o
  | evaluate h text o => exact e.registry_evaluate h text o
  | cellValue h sheet row column display => exact e.registry_cellValue h sheet row column display
  | hold h sheet r =>
    simp only [Call.after, Engine.hold]
    cases e.memory.hold? (keyOf h sheet r) <;> rfl
  | register f => exact absurd rfl (hc f)
  | _ => rfl

/-- A call keeps no trees but those that its functions lead to. -/
theorem Call.sound_after {e : Engine} (he : e.Counts ok) (c : Call) :
    (c.after e).memory.Sound (treesWith ok) := by
  have hadmits (h : Host) : Admits (treesWith ok) (e.surroundings h) :=
    admits_treesWith (s := e.surroundings h) he.registry
  have hreader (h : Host) (held : List String) (i : Nat) :
      (e.reader h i).Keeps (treesWith ok) held :=
    readerAt_keeps (hadmits h) (keyBound h) held i
  -- What is computed keeps the trees sound, whichever ranges are marked before.
  have hafter {α : Type} {f : Memory → α × Memory} (hf : Keeps (treesWith ok) e.memory.held f) :
      (f e.memory).2.Sound (treesWith ok) :=
    (hf e.memory rfl he.trees).2
  cases c with
  | tryEvaluate h text o =>
    rw [Call.after, tryEvaluate_eq, memory_after]
    exact hafter (computeText_keeps (hadmits h) (hreader h _) text o)
  | evaluate h text o =>
    rw [Call.after, evaluate_eq, tryEvaluate_eq, memory_after]
    exact hafter (computeText_keeps (hadmits h) (hreader h _) text o)
  | cellValue h sheet row column display =>
    rw [Call.after, cellValue_eq]
    exact hafter (valueAt_keeps (hadmits h) (hreader h _) sheet row column)
  | runProgram h sheet p => exact hafter (run_keeps (hreader h _ sheet) p)
  | referenceValue h sheet r =>
    exact hafter (readCell_keeps (hadmits h) (fun key => hreader h (key :: _)) sheet r)
  | rangeValues h sheet r includeHidden column =>
    exact hafter (readCells_keeps (hadmits h) (fun key => hreader h (key :: _)) sheet r
      includeHidden column)
  | hold h sheet r =>
    simp only [Call.after, Engine.hold]
    cases hhold : e.memory.hold? (keyOf h sheet r) with
    | none => exact he.trees
    | some m =>
      obtain ⟨-, rfl⟩ := Memory.hold?_eq_some.1 hhold
      exact he.trees
  | release h sheet r => exact he.trees
  | clearCache => exact List.forall_mem_nil _
  | register f => exact List.forall_mem_nil _

/-- A run keeps no other trees, whichever functions it registers, if these suit. -/
theorem Counts.afterCalls {e : Engine} (he : e.Counts ok) (calls : List Call)
    (hregister : ∀ f, Call.register f ∈ calls →
      ∀ registry : Registry, registry.Suits ok → (registry.register f).Suits ok) :
    (e.afterCalls calls).Counts ok := by
  induction calls generalizing e with
  | nil => exact he
  | cons c calls ih =>
    have hregistry : (c.after e).registry.Suits ok := by
      by_cases hc : ∃ f, c = .register f
      · obtain ⟨f, rfl⟩ := hc
        exact hregister f List.mem_cons_self _ he.registry
      · rw [c.registry_after e fun f hf => hc ⟨f, hf⟩]
        exact he.registry
    have hafter : (c.after e).Counts ok := ⟨hregistry, c.sound_after he⟩
    exact ih hafter fun f hf => hregister f (List.mem_cons_of_mem c hf)

theorem Counts.new (settings : Settings) (h : Registry.standard.Suits ok) :
    (Engine.new settings).Counts ok :=
  ⟨h, List.forall_mem_nil _⟩

end

/-- In whatever is parsed, with a host or without, and in whatever an engine has kept after any
calls, every call has a number of arguments that the signature of its own function allows.  With
such a number a function that is built in never reads an argument, an entry or a part of a list that
is not there.  Neither does computing a tree that is kept, if the functions that were registered
never do. -/
theorem arity_safe :
    (∀ (registry : Registry) (body : String) (e : Expr),
      Formula.parse registry body = .ok e → e.WellCounted) ∧
    (∀ (s : Surroundings) (c : Context) (body : String) (r : Reader) (m : Memory) (e : Expr),
      (run r (s.parse c body) m).1 = .ok e → e.WellCounted) ∧
    (∀ (settings : Settings) (calls : List Call),
      ∀ entry ∈ ((new settings).afterCalls calls).memory.cache.entries, entry.2.WellCounted) ∧
    (∀ (c : Context) (b : Formula.Builtin) (args : List Argument),
      b.signature.Allows args.length → (∀ a ∈ args, a.InBounds) →
        (applyBuiltin c args b).InBounds) ∧
    ∀ (settings : Settings) (calls : List Call),
      (∀ f, Call.register f ∈ calls → ∀ count, f.signature.Allows count → f.CopesWith count) →
      ∀ entry ∈ ((new settings).afterCalls calls).memory.cache.entries, ∀ c : Context,
        (settled c entry.2).InBounds := by
  have hallows (registry : Registry) :
      registry.Suits fun f count => f.signature.Allows count :=
    fun _ _ _ hcount => hcount
  refine ⟨?_, ?_, ?_, ?_, ?_⟩
  · exact fun registry body e h => calls_of_parse (hallows registry) h
  · exact fun s c body r m e h => post_of_run (parse_ends (hallows s.registry) c body) h
  · intro settings calls entry hentry
    have hcounts := (Counts.new settings (hallows _)).afterCalls calls
      fun f _ registry _ => hallows (registry.register f)
    exact hcounts.trees entry hentry
  · exact fun c b args hcount heach => applyBuiltin_inBounds c hcount heach
  · intro settings calls hregister entry hentry c
    have hcounts := (Counts.new settings .standard).afterCalls calls
      fun f hf registry hregistry => hregistry.register (hregister f hf)
    exact settled_inBounds c (hcounts.trees entry hentry)

/-- A function is replaced by one with other bounds, and both are called. -/
theorem arity_safe_of_replaced :
    let b : Grid.Workbook := ⟨[⟨"a", 1, 1, [], [], []⟩], 0⟩
    let f : Function := ⟨⟨"mid", 0, some 1⟩, .foreign fun _ => .ok (.number 0.0)⟩
    let calls : List Call := [.tryEvaluate b.host "=MID(\"abc\", 2, 1)" {}, .register f,
      .tryEvaluate b.host "=MID()" {}]
    let r : Reference := ⟨{ top := 0, left := 0, bottom := 1, right := 0 }, none⟩
    let args : List Argument := [.written r, .written r, .computed (.done (.number 1.0))]
    let entries := ((new {}).afterCalls calls).memory.cache.entries
    entries.map (·.1) = ["=MID()"] ∧
      (∀ entry ∈ entries, entry.2.WellCounted ∧ ∀ c : Context, (settled c entry.2).InBounds) ∧
      ∀ c : Context, (applyBuiltin c args .sumIfs).InBounds := by
  intro b f calls r args entries
  obtain ⟨-, -, htrees, hbuiltin, hsettled⟩ := arity_safe
  have hf : ∀ g, Call.register g ∈ calls →
      ∀ count, g.signature.Allows count → g.CopesWith count := by
    intro g hg count _
    simp only [calls, List.mem_cons, List.not_mem_nil, or_false, reduceCtorEq, false_or,
      Call.register.injEq] at hg
    subst hg
    exact fun _ => nofun
  refine ⟨by decide +kernel, fun entry hentry => ⟨?_, ?_⟩, fun c => ?_⟩
  · exact htrees {} calls entry hentry
  · exact hsettled {} calls hf entry hentry
  · refine hbuiltin c .sumIfs args ⟨by decide, by decide⟩ ?_
    simp [args, Argument.InBounds, Program.Ends]

end Engine

end Spreadsheet
