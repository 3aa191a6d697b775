import Spreadsheet.Proofs.Engine.Acyclic

/-!
# Guards

Ranges that are held guard against circular references and do nothing else.  This
is shown for every engine and every host, whatever functions the engine has,
whatever trees it keeps and whatever names the host knows.

* An evaluation in which no range is refused gives the same with fewer keys held,
  and remembers the same otherwise (`Task.unnoticed`).  A computation of which
  this is true does not notice the keys (`Unnoticed`).  The induction goes down
  the nested evaluations, each of which holds one more key in both runs.
* Every evaluation holds the keys afterwards that it held before
  (`held_tryEvaluate`), so guards that are dropped in any order leave none
  (`held_releaseAll`).
-/

namespace Spreadsheet.Engine

open Spreadsheet.Evaluation
open Spreadsheet.Formula (Error Expr Reference Registry)
open Spreadsheet.Grid (Range Workbook)

/-! ## Computations that do not notice the held keys -/

/-- The memory with some keys held instead of others. -/
def Memory.holdingAll (m : Memory) (held : List String) : Memory := { m with held := held }

/-- The engine with some keys held instead of others. -/
def holdingAll (e : Engine) (held : List String) : Engine :=
  { e with memory := e.memory.holdingAll held }

/-- From a memory a computation gives the same with other keys held, and then it leaves the same
memory behind with these keys held. -/
def Unnoticed {α : Type} (held : List String) (f : Memory → α × Memory) (m : Memory) : Prop :=
  f (m.holdingAll held) = ((f m).1, (f m).2.holdingAll held)

theorem Unnoticed.const {α : Type} (held : List String) (a : α) (m : Memory) :
    Unnoticed held (fun m => (a, m)) m := rfl

/-- A reader does not notice the held keys when it is given a request. -/
def Request.Unnoticed (r : Reader) (held : List String) (m : Memory) : Request → Prop
  | .cell ref => Engine.Unnoticed held (r.cell ref) m
  | .cells ref hidden => Engine.Unnoticed held (r.cells ref hidden) m

section

variable {held : List String}

/-- A program does not notice the held keys if none of its requests does. -/
theorem run_unnoticed {α : Type} {r : Reader} {p : Program α} {m : Memory}
    (h : ∀ q m', Asks r p m q m' → q.Unnoticed r held m') : Unnoticed held (run r p) m := by
  induction p generalizing m with
  | done a => rfl
  | fail e => rfl
  | readCell ref next ih =>
    have hfirst : r.cell ref (m.holdingAll held) = _ := h _ _ .cell
    simp only [Unnoticed, run, hfirst]
    generalize hanswer : r.cell ref m = answer
    obtain ⟨e | v, m'⟩ := answer
    · rfl
    · exact ih v fun q m'' hasks => h q m'' (.afterCell hanswer hasks)
  | readCells ref hidden next ih =>
    have hfirst : r.cells ref hidden (m.holdingAll held) = _ := h _ _ .cells
    simp only [Unnoticed, run, hfirst]
    generalize hanswer : r.cells ref hidden m = answer
    obtain ⟨e | vs, m'⟩ := answer
    · rfl
    · exact ih vs fun q m'' hasks => h q m'' (.afterCells hanswer hasks)

variable {s : Surroundings} {readers : Nat → Reader}

theorem treeOf_unnoticed {r : Reader} {c : Context} {text body : String} {m : Memory}
    (h : (if s.settings.cacheEnabled then m.cache.find? text else none) = none →
      ∀ q m', Asks r (s.parse c body) { m with parsed := m.parsed + 1 } q m' →
        q.Unnoticed r held m') :
    Unnoticed held (treeOf s r c text body) m := by
  unfold Unnoticed treeOf
  simp only [Memory.holdingAll]
  cases hkept : if s.settings.cacheEnabled then m.cache.find? text else none with
  | some e => rfl
  | none =>
    have hrun : run r (s.parse c body) { m with parsed := m.parsed + 1, held := held } = _ :=
      run_unnoticed (h hkept)
    simp only [hrun]
    generalize run r (s.parse c body) { m with parsed := m.parsed + 1 } = answer
    obtain ⟨e | e, m'⟩ := answer
    · rfl
    · simp only [Memory.holdingAll]
      split <;> rfl

/-- A text does not notice the held keys if none of its requests does. -/
theorem computeText_unnoticed {t : Task}
    (h : ∀ q m, t.Asks s readers q m → q.Unnoticed (readers (t.sheet s)) held m) :
    Unnoticed held (computeText s readers t.text t.options) t.memory := by
  unfold Unnoticed computeText
  cases hbody : formulaBody? t.text with
  | none => rfl
  | some body =>
    have htree : treeOf s (readers (t.sheet s)) (s.context t.options) t.text body
        (t.memory.holdingAll held) = _ :=
      treeOf_unnoticed fun hkept q m hasks => h q m (.parsing hbody hkept hasks)
    unfold Task.sheet at htree
    simp only [htree]
    generalize hanswer : treeOf s (readers (t.options.sheet.getD s.host.selected))
      (s.context t.options) t.text body t.memory = answer
    obtain ⟨e | e, m'⟩ := answer
    · rfl
    · have hresult : run (readers (t.sheet s)) (settled (s.context t.options) e)
          (m'.holdingAll held) = _ :=
        run_unnoticed fun q m hasks => h q m (.computing hbody hanswer hasks)
      unfold Task.sheet at hresult
      simp only [hresult]

/-- The value of a cell does not notice the held keys if its formula does not. -/
theorem valueAt_unnoticed {i row column : Nat} {m : Memory}
    (h : ∀ text, s.host.content i row column = .formula text →
      Unnoticed held (computeText s readers text (cellOptions i row column)) m) :
    Unnoticed held (valueAt s readers i row column) m := by
  unfold Unnoticed valueAt
  cases hcontent : s.host.content i row column with
  | formula text =>
    have htext : computeText s readers text _ (m.holdingAll held) = _ := h text hcontent
    unfold cellOptions at htext
    simp only [htext]
  | _ => rfl

/-- The values of cells are those of the first one and of the others after it. -/
theorem valuesAt_cons (i : Nat) (cell : Nat × Nat) (cells : List (Nat × Nat)) (m : Memory) :
    valuesAt s readers i (cell :: cells) m =
      ((valueAt s readers i cell.1 cell.2 m).1.raw ::
          (valuesAt s readers i cells (valueAt s readers i cell.1 cell.2 m).2).1,
        (valuesAt s readers i cells (valueAt s readers i cell.1 cell.2 m).2).2) := by
  have honto (cells : List (Nat × Nat)) (values : List Value) (m : Memory) :
      valuesOnto s readers i cells values m =
        ((valuesOnto s readers i cells [] m).1 ++ values,
          (valuesOnto s readers i cells [] m).2) := by
    induction cells generalizing values m with
    | nil => rfl
    | cons cell cells ih =>
      simp only [valuesOnto]
      rw [ih, ih [_]]
      simp
  simp only [valuesAt_eq, valuesOnto]
  rw [honto]
  simp

/-- The values of cells do not notice the held keys if none of them does when its turn comes. -/
theorem valuesAt_unnoticed {i : Nat} {cells : List (Nat × Nat)} {m : Memory}
    (h : ∀ before row column after, cells = before ++ (row, column) :: after →
      Unnoticed held (valueAt s readers i row column) (valuesAt s readers i before m).2) :
    Unnoticed held (valuesAt s readers i cells) m := by
  induction cells generalizing m with
  | nil => rfl
  | cons cell cells ih =>
    have hfirst : Unnoticed held (valueAt s readers i cell.1 cell.2) m :=
      h [] cell.1 cell.2 cells rfl
    have hrest : Unnoticed held (valuesAt s readers i cells)
        (valueAt s readers i cell.1 cell.2 m).2 := by
      apply ih
      intro before row column after hcells
      have hturn := h (cell :: before) row column after (by rw [hcells, List.cons_append])
      rwa [valuesAt_cons] at hturn
    unfold Unnoticed at hfirst hrest ⊢
    simp only [valuesAt_cons, hfirst, hrest]

/-- To hold a key that is free in both runs is not noticed. -/
theorem holding_unnoticed {α : Type} {key : String} {body : Memory → α × Memory} {m m' : Memory}
    (hhold : m.hold? key = some m') (hkey : key ∉ held) (h : Unnoticed (key :: held) body m') :
    Unnoticed held (holding key body) m := by
  have hhold' : (m.holdingAll held).hold? key = some (m'.holdingAll (key :: held)) := by
    obtain ⟨-, rfl⟩ := Memory.hold?_eq_some.1 hhold
    exact Memory.hold?_eq_some.2 ⟨hkey, rfl⟩
  have hbody : body (m'.holdingAll (key :: held)) = _ := h
  simp only [Unnoticed, holding, hhold, hhold', hbody]
  simp [Memory.release, Memory.holdingAll]

/-! ## Evaluations without a refusal -/

/-- A request is not noticed if its key is free and the formulas that are read for it do not notice
the keys when their turn comes. -/
theorem Unlimited.request_unnoticed (hu : Unlimited s readers) {base : Nat} {q : Request}
    {m : Memory}
    (hfree : ∀ i, q.sheet? s.host base = some i →
      ∃ m', m.hold? (keyOf s.host i q.reference.range) = some m' ∧
        keyOf s.host i q.reference.range ∉ held ∧
        ∀ before row column after text,
          q.cellsOn s.host i = before ++ (row, column) :: after →
          s.host.content i row column = .formula text →
          Unnoticed (keyOf s.host i q.reference.range :: held)
            (computeText s readers text (cellOptions i row column))
            (valuesAt s readers i before m').2) :
    q.Unnoticed (readers base) held m := by
  rw [hu base]
  cases q with
  | cell r =>
    simp only [Request.Unnoticed, readCell]
    cases hi : sheetOf s.host base r with
    | error e => exact .const held _ m
    | ok i =>
      obtain ⟨m', hhold, hkey, hcells⟩ := hfree i (by simp [Request.sheet?, hi, Except.toOption])
      exact holding_unnoticed hhold hkey
        (valueAt_unnoticed fun text htext => hcells [] _ _ [] text rfl htext)
  | cells r hidden =>
    simp only [Request.Unnoticed, readCells]
    cases hi : sheetOf s.host base r with
    | error e => exact .const held _ m
    | ok i =>
      dsimp only
      split
      next => exact .const held _ m
      next hinside =>
        obtain ⟨m', hhold, hkey, hcells⟩ := hfree i (by
          simp only [Bool.or_eq_true, decide_eq_true_eq, not_or, Nat.not_le] at hinside
          simp [Request.sheet?, hi, Except.toOption, hinside])
        exact holding_unnoticed hhold hkey (valuesAt_unnoticed fun before row column after heq =>
          valueAt_unnoticed fun text htext => hcells before row column after text heq htext)

end

/-- What is nested in a task that another opens is nested in that other one. -/
theorem Nested.head {s : Surroundings} {readers : Nat → Reader} {t t' t'' : Task} {n : Nat}
    (h : Opens s readers t t') (hn : Nested s readers t' n t'') :
    Nested s readers t (n + 1) t'' := by
  induction hn with
  | self => exact .opens .self h
  | opens _ hopens ih => exact .opens ih hopens

/-- While a text is computed, no range is refused that its formula or a nested one asks for. -/
def Task.Unrefused (s : Surroundings) (readers : Nat → Reader) (t : Task) : Prop :=
  ∀ level t', Nested s readers t level t' → ∀ q m i, t'.Asks s readers q m →
    q.sheet? s.host (t'.sheet s) = some i →
      (m.hold? (keyOf s.host i q.reference.range)).isSome = true

/-- Any tree at all. -/
def anyTree : Trees := fun _ _ => True

theorem admits_anyTree (s : Surroundings) : Admits anyTree s := ⟨fun _ _ => trivial⟩

theorem sound_anyTree (m : Memory) : m.Sound anyTree := fun _ _ => trivial

/-- A program asks with the keys held that were held when it started. -/
theorem Asks.held_eq {α : Type} {r : Reader} {held : List String} (hr : r.Keeps anyTree held)
    {p : Program α} {q : Request} {m m' : Memory} (h : Asks r p m q m') (hm : m.held = held) :
    m'.held = held := by
  induction h with
  | cell => exact hm
  | cells => exact hm
  | @afterCell ref next m v m' q m'' hv _ ih =>
    have hkept := (hr.cell ref m hm (sound_anyTree m)).1
    rw [hv] at hkept
    exact ih hkept
  | @afterCells ref hidden next m vs m' q m'' hvs _ ih =>
    have hkept := (hr.cells ref hidden m hm (sound_anyTree m)).1
    rw [hvs] at hkept
    exact ih hkept

section

variable {s : Surroundings} {readers : Nat → Reader}
  (hreaders : ∀ held i, (readers i).Keeps anyTree held)
include hreaders

theorem held_valuesAt (i : Nat) (cells : List (Nat × Nat)) (m : Memory) :
    (valuesAt s readers i cells m).2.held = m.held :=
  (valuesAt_keeps (admits_anyTree s) (hreaders m.held) i cells m rfl (sound_anyTree m)).1

theorem Task.Asks.held_eq {t : Task} {q : Request} {m : Memory} (h : t.Asks s readers q m) :
    m.held = t.memory.held := by
  have hreader := hreaders t.memory.held (t.sheet s)
  cases h with
  | parsing _ _ hasks => exact hasks.held_eq hreader rfl
  | @computing body e m' hbody htree hasks =>
    have hkept := (treeOf_keeps (admits_anyTree s) hreader (s.context t.options) hbody t.memory rfl
      (sound_anyTree _)).1
    rw [htree] at hkept
    exact hasks.held_eq hreader hkept

variable {sheets : Set Nat} {free : List String → Nat} (hu : Unlimited s readers)
  (hd : Descends s.host sheets free)
include hu hd

/-- A text in whose computation no range is refused does not notice that keys are held. -/
theorem Task.unnoticed {t : Task} (hsheet : t.sheet s ∈ sheets) (ht : t.Unrefused s readers)
    {held : List String} (hheld : ∀ key ∈ held, key ∈ t.memory.held) :
    Unnoticed held (computeText s readers t.text t.options) t.memory := by
  induction hfree : free t.memory.held using Nat.strong_induction_on generalizing t held with
  | _ k ih =>
    apply computeText_unnoticed
    intro q m hasks
    apply hu.request_unnoticed
    intro i hi
    obtain ⟨m', hhold⟩ := Option.isSome_iff_exists.1 (ht 0 t .self q m i hasks hi)
    obtain ⟨hkey, rfl⟩ := Memory.hold?_eq_some.1 hhold
    have hmheld := hasks.held_eq hreaders
    rw [hmheld] at hkey
    refine ⟨_, hhold, fun hmem => hkey (hheld _ hmem), ?_⟩
    intro before row column after text hcells hcontent
    have hopens := Opens.formula hasks hi hhold hcells hcontent
    have hisheet := hd.closed hsheet (Request.sheetOf_eq hi)
    -- One more key is held when the turn of the formula comes, in both runs.
    have hmemory := (held_valuesAt (s := s) hreaders i before
      { m with held := keyOf s.host i q.reference.range :: m.held }).trans
        (congrArg (keyOf s.host i q.reference.range :: ·) hmheld)
    have hlt := hd.lt hisheet hkey
    rw [← hmemory, hfree] at hlt
    refine ih _ hlt (t := ⟨text, cellOptions i row column, _⟩) hisheet ?_ ?_ rfl
    · exact fun level t' hn => ht (level + 1) t' (hn.head hopens)
    · rw [hmemory]
      intro key hmem
      exact (List.mem_cons.1 hmem).elim (fun h => h ▸ List.mem_cons_self)
        fun h => List.mem_cons_of_mem _ (hheld key h)

end

/-! ## Engines -/

/-- A range on a sheet of a host that an engine holds. -/
structure Guard where
  /-- The host. -/
  host : Host
  /-- The sheet. -/
  sheet : Nat
  /-- The range. -/
  range : Range

/-- The key that is held. -/
def Guard.key (g : Guard) : String := keyOf g.host g.sheet g.range

/-- The engine with some guards in place, one after the other. -/
def guard (e : Engine) (guards : List Guard) : Except Error Engine :=
  guards.foldlM (fun e g => e.hold g.host g.sheet g.range) e

/-- The engine without some guards, which are dropped one after the other. -/
def dropGuards (e : Engine) (guards : List Guard) : Engine :=
  guards.foldl (fun e g => e.release g.host g.sheet g.range) e

/-- A range can be held when its key is free, and then its key is held. -/
theorem hold_eq_ok {e e' : Engine} {h : Host} {i : Nat} {r : Range}
    (hhold : e.hold h i r = .ok e') :
    keyOf h i r ∉ e.memory.held ∧ e.holdingAll (keyOf h i r :: e.memory.held) = e' := by
  unfold Engine.hold at hhold
  split at hhold
  next m hkey =>
    cases hhold
    obtain ⟨hfree, rfl⟩ := Memory.hold?_eq_some.1 hkey
    exact ⟨hfree, rfl⟩
  next => cases hhold

/-- Guards that are in place hold their keys and change nothing else. -/
theorem guard_eq_ok {e e' : Engine} {guards : List Guard} (h : e.guard guards = .ok e') :
    e' = e.holdingAll ((guards.map Guard.key).reverse ++ e.memory.held) := by
  induction guards generalizing e with
  | nil => exact (Except.ok.inj h).symm
  | cons g guards ih =>
    obtain ⟨e₁, hhold, hrest⟩ := Program.bind_eq_ok.1 h
    obtain ⟨-, rfl⟩ := hold_eq_ok hhold
    rw [ih hrest]
    simp [holdingAll, Memory.holdingAll, Guard.key]

theorem diff_self_eq_nil (keys : List String) : keys.diff keys = [] := by
  induction keys with
  | nil => rfl
  | cons key keys ih => rw [List.diff_cons, List.erase_cons_head, ih]

/-- Guards take their keys with them. -/
theorem held_dropGuards (e : Engine) (guards : List Guard) :
    (e.dropGuards guards).memory.held = e.memory.held.diff (guards.map Guard.key) := by
  induction guards generalizing e with
  | nil => rfl
  | cons g guards ih =>
    have hdrop : e.dropGuards (g :: guards) =
        (e.release g.host g.sheet g.range).dropGuards guards := rfl
    rw [hdrop, ih, List.map_cons, List.diff_cons]
    rfl

example :
    let g : Guard := ⟨Workbook.new.host, 0, { top := 0, left := 0, bottom := 1, right := 1 }⟩
    (((new {}).holdingAll [g.key, "a"]).dropGuards [g]).memory.held = ["a"] := by decide +kernel

theorem reader_keeps_anyTree (e : Engine) (h : Host) (held : List String) (i : Nat) :
    (e.reader h i).Keeps anyTree held :=
  readerAt_keeps (s := e.surroundings h) (admits_anyTree _) (keyBound h) held i

theorem unlimited_reader (e : Engine) (h : Host) : Unlimited (e.surroundings h) (e.reader h) := by
  rw [reader_eq]
  exact unlimited_readerAt (e.surroundings h)

theorem held_after {α : Type} (e : Engine) (answer : α × Memory) :
    (e.after answer).2.memory.held = answer.2.held := rfl

/-- Every evaluation leaves the keys held that were held before, whether it succeeds or fails. -/
theorem held_tryEvaluate (e : Engine) (h : Host) (text : String) (o : Options) :
    (e.tryEvaluate h text o).2.memory.held = e.memory.held := by
  have hkeeps := computeText_keeps (admits_anyTree (e.surroundings h))
    (reader_keeps_anyTree e h e.memory.held) text o
  rw [tryEvaluate_eq, held_after]
  exact (hkeeps e.memory rfl (sound_anyTree _)).1

theorem surroundings_holdingAll (e : Engine) (held : List String) (h : Host) :
    (e.holdingAll held).surroundings h = e.surroundings h := rfl

theorem reader_holdingAll (e : Engine) (held : List String) (h : Host) :
    (e.holdingAll held).reader h = e.reader h := by
  rw [reader_eq, reader_eq, surroundings_holdingAll]

/-- An evaluation in which no range is refused does not notice that keys are held. -/
theorem tryEvaluate_holdingAll {e : Engine} {h : Host} {text : String} {o : Options}
    (ht : Task.Unrefused (e.surroundings h) (e.reader h) ⟨text, o, e.memory⟩) {held : List String}
    (hheld : ∀ key ∈ held, key ∈ e.memory.held) :
    (e.holdingAll held).tryEvaluate h text o =
      ((e.tryEvaluate h text o).1, (e.tryEvaluate h text o).2.holdingAll held) := by
  have htext : Unnoticed held (computeText (e.surroundings h) (e.reader h) text o) e.memory :=
    Task.unnoticed (reader_keeps_anyTree e h) (unlimited_reader e h)
      (h.descends (o.sheet.getD h.selected)) (t := ⟨text, o, e.memory⟩) (.inl rfl) ht hheld
  unfold Unnoticed at htext
  rw [tryEvaluate_eq, tryEvaluate_eq, reader_holdingAll, surroundings_holdingAll]
  change after _ (computeText _ _ text o (e.memory.holdingAll held)) = _
  rw [htext]
  generalize computeText (e.surroundings h) (e.reader h) text o e.memory = answer
  rfl

/-- Guards only detect.  Take an engine that holds no range, and guards that are in place while it
computes a text.  If no range is refused then, the engine would give the same without them, and would
remember the same.  Whether it succeeds or fails, the engine holds afterwards what it held before, and
when the guards are dropped, in any order, it holds no range. -/
theorem guards_only_detect {e e' : Engine} (he : e.memory.held = []) {guards : List Guard}
    (hguards : e.guard guards = .ok e') (h : Host) (text : String) (o : Options) :
    (Task.Unrefused (e'.surroundings h) (e'.reader h) ⟨text, o, e'.memory⟩ →
      e.tryEvaluate h text o =
        ((e'.tryEvaluate h text o).1, (e'.tryEvaluate h text o).2.holdingAll [])) ∧
      (e'.tryEvaluate h text o).2.memory.held = e'.memory.held ∧
      ∀ guards' : List Guard, guards'.Perm guards →
        ((e'.tryEvaluate h text o).2.dropGuards guards').memory.held = [] := by
  obtain rfl := guard_eq_ok hguards
  refine ⟨fun ht => ?_, held_tryEvaluate _ h text o, fun guards' hperm => ?_⟩
  · have hsame := tryEvaluate_holdingAll ht (List.forall_mem_nil _)
    have hback : (e.holdingAll ((guards.map Guard.key).reverse ++ e.memory.held)).holdingAll [] = e := by
      obtain ⟨registry, settings, cache, parsed, held⟩ := e
      obtain rfl : held = [] := he
      rfl
    rwa [hback] at hsame
  · rw [held_dropGuards, held_tryEvaluate]
    change List.diff ((guards.map Guard.key).reverse ++ e.memory.held) _ = []
    rw [he, List.append_nil]
    have hkeys : (guards.map Guard.key).reverse.Perm (guards'.map Guard.key) :=
      (List.reverse_perm _).trans (hperm.symm.map _)
    have hdiff := hkeys.diff_right (guards'.map Guard.key)
    rw [diff_self_eq_nil] at hdiff
    exact hdiff.eq_nil

/-- The formula of a cell is computed while the cell is guarded. -/
theorem guards_only_detect_chained :
    let e := Engine.new {}
    let g : Guard :=
      ⟨chained.host, 0, { top := 0, left := 0, bottom := 0, right := 0 }⟩
    let e' := e.holdingAll [g.key]
    e.memory.held = [] ∧ e.guard [g] = .ok e' ∧
      (e.tryEvaluate chained.host "=B1*2" {}).1 = (e'.tryEvaluate chained.host "=B1*2" {}).1 ∧
      (e'.tryEvaluate chained.host "=B1*2" {}).2.memory.held = [g.key] ∧
      ((e'.tryEvaluate chained.host "=B1*2" {}).2.dropGuards [g]).memory.held = [] := by
  intro e g e'
  have hguard : e.guard [g] = .ok e' := rfl
  obtain ⟨hsame, hheld, hdrop⟩ := guards_only_detect (e := e) rfl hguard chained.host "=B1*2" {}
  refine ⟨rfl, hguard, ?_, hheld, hdrop [g] (.refl _)⟩
  -- The guarded cell ranks above the cells that its formula refers to.
  have hcalm : Task.Calm (e'.surroundings chained.host) chainedRanking ⟨"=B1*2", {}, e'.memory⟩ := by
    refine ⟨List.forall_mem_nil _, fun hbody => ?_⟩
    have habove : HeldAbove chainedRanking (chainedRanking.rank 0 0 0) [g.key] := by
      intro key hkey
      obtain rfl := List.mem_singleton.1 hkey
      exact ⟨0, g.range, 0, 0, "=B1*2", rfl, rfl, rfl, le_rfl⟩
    exact stands_of_heldAbove habove rfl hbody
  have hunrefused : Task.Unrefused (e'.surroundings chained.host) (e'.reader chained.host)
      ⟨"=B1*2", {}, e'.memory⟩ := by
    intro level t hnested q m i hasks hi
    rw [reader_eq] at hnested hasks
    have ht := hnested.calm (b := chained) rfl rfl hcalm
    have hnames : NamesDistinct chained := List.nodup_singleton _
    have hfree := ht.free (b := chained) rfl rfl hnames hasks hi
    exact Option.isSome_iff_exists.2 ⟨_, Memory.hold?_eq_some.2 ⟨hfree, rfl⟩⟩
  rw [hsame hunrefused]

end Spreadsheet.Engine
