import Spreadsheet.Proofs.Engine.Caching
import Spreadsheet.Proofs.Engine.Recursion

/-!
# Nested evaluations

To compute a text may mean to compute the formulas in the cells that it asks
for, and so on.  Here these nested evaluations are steps that can be spoken of.

* `Asks` are the requests of a program while it runs, with the memory at that
  time, and `Task.Asks` those of a text.  Both its parsing and its computation
  may ask for cells.
* A task `Opens` another when it asks for cells, the key of their range is free
  and is held now, and the turn of a cell with a formula has come.
* A `Moment` of an evaluation is given by the keys that are held when one of its
  nested evaluations starts, when it asks for cells, and right after a key was
  held for that.

Nothing but the held keys ends the nesting of formulas that refer to each other.
The main result says that they do (`Reached.evaluation_bounded`).  At every
moment the held keys are distinct, one for each level of nesting, and each is
the key of a part of a range that is written in the text or in a formula of the
workbook.  There are finitely many of these keys, so there is a greatest depth.
-/

namespace Spreadsheet.Engine

open Spreadsheet.Evaluation
open Spreadsheet.Formula (Error Expr Reference Registry)
open Spreadsheet.Grid (Range Workbook)

/-! ## Requests -/

/-- A request of a program. -/
inductive Request where
  /-- For the value of the first cell of a reference. -/
  | cell (r : Reference)
  /-- For the values of the cells of a reference. -/
  | cells (r : Reference) (includeHidden : Bool)

namespace Request

/-- The reference that is asked for. -/
def reference : Request → Reference
  | .cell r => r
  | .cells r _ => r

/-- The sheet that is read for a formula on a sheet, if the request is not refused for it. -/
def sheet? (h : Host) (base : Nat) : Request → Option Nat
  | .cell r => (sheetOf h base r).toOption
  | .cells r _ => (sheetOf h base r).toOption.filter fun i =>
    r.range.bottom < h.rows i && r.range.right < h.columns i

/-- The cells that are read, in order. -/
def cellsOn (h : Host) (i : Nat) : Request → List (Nat × Nat)
  | .cell r => [(r.range.top, r.range.left)]
  | .cells r hidden => cellsToRead h i r.range hidden none

/-- Requests are read on the sheet that their reference names. -/
theorem sheetOf_eq {h : Host} {base i : Nat} {q : Request} (hq : q.sheet? h base = some i) :
    sheetOf h base q.reference = .ok i := by
  have hsheet : (sheetOf h base q.reference).toOption = some i := by
    cases q with
    | cell r => exact hq
    | cells r hidden => exact (Option.filter_eq_some_iff.1 hq).1
  cases hi : sheetOf h base q.reference with
  | ok j =>
    rw [hi] at hsheet
    exact congrArg Except.ok (Option.some.inj hsheet)
  | error e =>
    rw [hi] at hsheet
    cases hsheet

end Request

/-- While a program runs from a memory, it makes a request with another one. -/
inductive Asks {α : Type} (r : Reader) : Program α → Memory → Request → Memory → Prop where
  /-- The program asks for a cell. -/
  | cell {ref next m} : Asks r (.readCell ref next) m (.cell ref) m
  /-- The program asks for cells. -/
  | cells {ref hidden next m} : Asks r (.readCells ref hidden next) m (.cells ref hidden) m
  /-- It asks after it was given a cell. -/
  | afterCell {ref next m v m' q m''} :
    r.cell ref m = (.ok v, m') → Asks r (next v) m' q m'' → Asks r (.readCell ref next) m q m''
  /-- It asks after it was given cells. -/
  | afterCells {ref hidden next m vs m' q m''} :
    r.cells ref hidden m = (.ok vs, m') → Asks r (next vs) m' q m'' →
      Asks r (.readCells ref hidden next) m q m''

/-! ## Tasks -/

/-- A text to compute, with the memory at the start. -/
structure Task where
  /-- The text. -/
  text : String
  /-- Where and how it is computed. -/
  options : Options
  /-- The memory. -/
  memory : Memory

variable (s : Surroundings) (readers : Nat → Reader)

/-- The sheet that the text of a task is computed on. -/
def Task.sheet (t : Task) : Nat := t.options.sheet.getD s.host.selected

/-- While a text is computed, it makes a request with a memory. -/
inductive Task.Asks (t : Task) (q : Request) (m : Memory) : Prop where
  /-- It does so while it is parsed, which it is when its tree is not kept. -/
  | parsing {body} :
    formulaBody? t.text = some body →
    (if s.settings.cacheEnabled then t.memory.cache.find? t.text else none) = none →
    Engine.Asks (readers (t.sheet s)) (s.parse (s.context t.options) body)
      { t.memory with parsed := t.memory.parsed + 1 } q m →
    Asks t q m
  /-- It does so while its tree is computed. -/
  | computing {body e m'} :
    formulaBody? t.text = some body →
    treeOf s (readers (t.sheet s)) (s.context t.options) t.text body t.memory = (.ok e, m') →
    Engine.Asks (readers (t.sheet s)) (settled (s.context t.options) e) m' q m →
    Asks t q m

/-- A task reaches a formula in a cell that it asks for and that is to be read after some others. -/
inductive Opens (t : Task) : Task → Prop where
  /-- The key of the range is held, and the cells before have been computed. -/
  | formula {q m i m' before row column after text} :
    t.Asks s readers q m →
    q.sheet? s.host (t.sheet s) = some i →
    m.hold? (keyOf s.host i q.reference.range) = some m' →
    q.cellsOn s.host i = before ++ (row, column) :: after →
    s.host.content i row column = .formula text →
    Opens t ⟨text, cellOptions i row column, (valuesAt s readers i before m').2⟩

/-- A task is nested in another, a number of levels deep. -/
inductive Nested (t : Task) : Nat → Task → Prop where
  /-- The task itself. -/
  | self : Nested t 0 t
  /-- A task that a nested one opens. -/
  | opens {n t' t''} : Nested t n t' → Opens s readers t' t'' → Nested t (n + 1) t''

/-- At a moment of a task, a number of levels deep, certain keys are held. -/
inductive Moment (t : Task) : Nat → List String → Prop where
  /-- A nested task starts. -/
  | starts {n t'} : Nested s readers t n t' → Moment t n t'.memory.held
  /-- A nested task asks for cells. -/
  | asks {n t' q m} : Nested s readers t n t' → t'.Asks s readers q m → Moment t n m.held
  /-- A nested task asks for cells and their key is held now. -/
  | holds {n t' q m i m'} :
    Nested s readers t n t' → t'.Asks s readers q m → q.sheet? s.host (t'.sheet s) = some i →
      m.hold? (keyOf s.host i q.reference.range) = some m' → Moment t (n + 1) m'.held

/-! ## Requests stay in scope -/

section

variable {α : Type} {trees : Trees} {held : List String} {S : Scope} {post : α → Prop}

/-- A program in a scope asks for references of it, with the held keys and the sound trees that it
started with. -/
theorem Asks.spec {r : Reader} {answers : Answers} (hr : r.Gives trees held answers)
    (hanswers : answers.AreResults) {p : Program α} (hp : p.Within S post) {m m' : Memory}
    {q : Request} (h : Asks r p m q m') (hheld : m.held = held) (hm : m.Sound trees) :
    m'.held = held ∧ m'.Sound trees ∧ S.has q.reference := by
  induction h with
  | cell => exact ⟨hheld, hm, hp.1⟩
  | cells => exact ⟨hheld, hm, hp.1⟩
  | @afterCell ref next m v m' q m'' hv _ ih =>
    obtain ⟨hheld', hm'⟩ := hr.cell ref m hheld hm
    have hresult := hr.first ref m hheld hm
    rw [hv] at hresult hheld' hm'
    exact ih (hp.2 v (hanswers.cell hresult.symm)) hheld' hm'
  | @afterCells ref hidden next m vs m' q m'' hvs _ ih =>
    obtain ⟨hheld', hm'⟩ := hr.cells ref hidden m hheld hm
    have hresult := hr.all ref hidden m hheld hm
    rw [hvs] at hresult hheld' hm'
    exact ih (hp.2 vs (hanswers.cells hresult.symm)) hheld' hm'

end

section

variable {s : Surroundings} (hs : s.host.KnowsNoNames) (hregistry : s.registry = .standard)
  {n : Nat} {t : Task}
include hs hregistry

/-- A text asks for what is in the scope of its formula. -/
theorem Task.Asks.spec {q : Request} {m : Memory} (h : t.Asks s (readerAt s n) q m)
    (ht : t.memory.Sound (treesOf s.registry)) :
    m.held = t.memory.held ∧ m.Sound (treesOf s.registry) ∧
      ∃ body, formulaBody? t.text = some body ∧
        (formulaScope s.registry body).has q.reference := by
  have hfits := fits_of_knowsNoNames hs
  have hreader := readerAt_gives hfits n t.memory.held (t.sheet s)
  have hresults := answersAt_areResults hs hregistry n t.memory.held (t.sheet s)
  have hparse (body : String) :=
    parse_within hs hregistry (s.context t.options) body
  cases h with
  | @parsing body hbody _ hasks =>
    obtain ⟨hheld, hm, hq⟩ := hasks.spec hreader hresults (hparse body) rfl ht
    exact ⟨hheld, hm, body, hbody, hq⟩
  | @computing body e m' hbody htree hasks =>
    have hresult :=
      treeOf_computes hfits hreader (s.context t.options) trivial hbody t.memory rfl ht
    obtain ⟨hheld', hm'⟩ :=
      treeOf_keeps hfits.toAdmits hreader.toKeeps (s.context t.options) hbody t.memory rfl ht
    rw [htree] at hresult hheld' hm'
    have he := (hparse body).of_under hresults hresult.symm
    obtain ⟨hheld, hm, hq⟩ := hasks.spec hreader hresults (settled_within _ he) hheld' hm'
    exact ⟨hheld, hm, body, hbody, hq⟩

end

/-! ## Possible keys -/

/-- A reference is written in a text that is computed with some options, or in a formula of the
workbook.  The number is the sheet of the formula. -/
inductive Written (b : Workbook) (text : String) (o : Options) : Nat → Reference → Prop where
  /-- It is written in the text. -/
  | text {body w} :
    formulaBody? text = some body → w ∈ Formula.references .standard body →
      Written b text o (o.sheet.getD b.selected) w
  /-- It is written in the formula of a cell. -/
  | cell {i row column formula body w} :
    b.host.content i row column = .formula formula → formulaBody? formula = some body →
      w ∈ Formula.references .standard body → Written b text o i w

/-- The keys of parts of the ranges that are written, on the sheets that these are on. -/
def possibleKeys (b : Workbook) (text : String) (o : Options) : Set String :=
  {key | ∃ base w i r, Written b text o base w ∧ sheetOf b.host base w = .ok i ∧
    r.Within w.range ∧ key = keyOf b.host i r}

theorem finite_possibleKeys (b : Workbook) (text : String) (o : Options) :
    (possibleKeys b text o).Finite := by
  apply b.finite_keys.subset
  rintro key ⟨-, -, i, r, -, -, -, rfl⟩
  exact Workbook.keyOf_mem i r

/-- The sheet of a reference depends on the sheet that it names alone. -/
theorem sheetOf_congr (h : Host) (base : Nat) {r w : Reference} (hsheet : r.sheet = w.sheet)
    {i : Nat} (hi : sheetOf h base r = .ok i) : sheetOf h base w = .ok i := by
  unfold sheetOf at hi ⊢
  rw [← hsheet]
  exact hi

/-! ## One level -/

/-- What holds of a task that is nested in the computation of a text, a number of levels deep. -/
structure Task.Proper (s : Surroundings) (b : Workbook) (text : String) (o : Options) (n : Nat)
    (t : Task) : Prop where
  /-- Its trees are sound. -/
  sound : t.memory.Sound (treesOf s.registry)
  /-- The held keys are distinct. -/
  nodup : t.memory.held.Nodup
  /-- There is one for each level. -/
  length : t.memory.held.length = n
  /-- They are possible keys. -/
  possible : ∀ key ∈ t.memory.held, key ∈ possibleKeys b text o
  /-- The references of its formula are written. -/
  written : ∀ {body w}, formulaBody? t.text = some body →
    w ∈ Formula.references s.registry body → Written b text o (t.sheet s) w

section

variable {s : Surroundings} {b : Workbook} (hs : s.host = b.host)
  (hregistry : s.registry = .standard)
  {text : String} {o : Options} {n level : Nat} {t : Task} (ht : t.Proper s b text o level)
include hs hregistry ht

omit hregistry ht in
theorem knowsNoNames : s.host.KnowsNoNames := hs ▸ b.host_knowsNoNames

/-- A key that a task of some level holds is new and possible. -/
theorem Task.Proper.holds {q : Request} {m m' : Memory} {i : Nat}
    (hasks : t.Asks s (readerAt s n) q m) (hi : q.sheet? s.host (t.sheet s) = some i)
    (hhold : m.hold? (keyOf s.host i q.reference.range) = some m') :
    m'.held.Nodup ∧ m'.held.length = level + 1 ∧ (∀ key ∈ m'.held, key ∈ possibleKeys b text o) ∧
      m'.Sound (treesOf s.registry) := by
  obtain ⟨hheld, hm, body, hbody, w, hw, hsheet, hrange⟩ :=
    hasks.spec (knowsNoNames hs) hregistry ht.sound
  obtain ⟨hnew, rfl⟩ := Memory.hold?_eq_some.1 hhold
  rw [hheld] at hnew
  simp only [hheld]
  refine ⟨List.nodup_cons.2 ⟨hnew, ht.nodup⟩, ?_, ?_, hm⟩
  · rw [List.length_cons, ht.length]
  · intro key hkey
    rcases List.mem_cons.1 hkey with rfl | hkey
    · have hwsheet := sheetOf_congr s.host (t.sheet s) hsheet (Request.sheetOf_eq hi)
      rw [hs] at hwsheet ⊢
      exact ⟨t.sheet s, w, i, q.reference.range, ht.written hbody hw, hwsheet, hrange, rfl⟩
    · exact ht.possible key hkey

/-- A task that another one opens is one level deeper. -/
theorem Task.Proper.opens {t' : Task} (h : Opens s (readerAt s n) t t') :
    t'.Proper s b text o (level + 1) := by
  cases h with
  | @formula q m i m' before row column after formula hasks hi hhold _ hcontent =>
    obtain ⟨hnodup, hlength, hpossible, hm'⟩ := ht.holds hs hregistry hasks hi hhold
    have hadmits := (fits_of_knowsNoNames (knowsNoNames hs)).toAdmits
    obtain ⟨hheld, hsound⟩ :=
      valuesAt_keeps hadmits (readerAt_keeps hadmits n m'.held) i before m' rfl hm'
    constructor
    · exact hsound
    · rwa [hheld]
    · rwa [hheld]
    · rwa [hheld]
    · intro body w hbody hw
      rw [hregistry] at hw
      rw [hs] at hcontent
      exact .cell hcontent hbody hw

end

/-! ## All levels -/

section

variable {s : Surroundings} {b : Workbook} (hs : s.host = b.host)
  (hregistry : s.registry = .standard)
  {text : String} {o : Options} {n : Nat} {t : Task} (ht : t.Proper s b text o 0)
include hs hregistry ht

theorem Nested.proper {level : Nat} {t' : Task} (h : Nested s (readerAt s n) t level t') :
    t'.Proper s b text o level := by
  induction h with
  | self => exact ht
  | opens _ hopens ih => exact ih.opens hs hregistry hopens

/-- At every moment the held keys are distinct and possible, one for each level. -/
theorem Moment.spec {level : Nat} {held : List String}
    (h : Moment s (readerAt s n) t level held) :
    held.Nodup ∧ held.length = level ∧ ∀ key ∈ held, key ∈ possibleKeys b text o := by
  cases h with
  | starts hnested =>
    have ht' := hnested.proper hs hregistry ht
    exact ⟨ht'.nodup, ht'.length, ht'.possible⟩
  | asks hnested hasks =>
    have ht' := hnested.proper hs hregistry ht
    obtain ⟨hheld, -⟩ := hasks.spec (knowsNoNames hs) hregistry ht'.sound
    rw [hheld]
    exact ⟨ht'.nodup, ht'.length, ht'.possible⟩
  | holds hnested hasks hi hhold =>
    have ht' := hnested.proper hs hregistry ht
    obtain ⟨hnodup, hlength, hpossible, -⟩ := ht'.holds hs hregistry hasks hi hhold
    exact ⟨hnodup, hlength, hpossible⟩

end

/-- Distinct keys out of some are not more than these. -/
theorem length_le_ncard {keys : Set String} (hkeys : keys.Finite) {held : List String}
    (hnodup : held.Nodup) (hsub : ∀ key ∈ held, key ∈ keys) : held.length ≤ keys.ncard := by
  rw [← List.toFinset_card_of_nodup hnodup, ← Set.ncard_coe_finset]
  apply Set.ncard_le_ncard _ hkeys
  intro key hkey
  exact hsub key (List.mem_toFinset.1 hkey)

/-! ## Engines -/

theorem reader_eq (e : Engine) (h : Host) :
    e.reader h = readerAt (e.surroundings h) (keyBound h) :=
  funext fun _ => rfl

/-- A text with an engine after any calls that registered no functions is a proper task. -/
theorem Reached.proper {settings : Settings} {e : Engine} (he : Reached settings [] e)
    (b : Workbook) (text : String) (o : Options) :
    Task.Proper (e.surroundings b.host) b text o 0 ⟨text, o, e.memory⟩ := by
  obtain ⟨hrest, hregistry⟩ := he.atRest
  constructor
  · exact hrest.sound
  · rw [hrest.held]
    exact List.nodup_nil
  · rw [hrest.held]
    rfl
  · rw [hrest.held]
    exact fun key hkey => absurd hkey List.not_mem_nil
  · intro body w hbody hw
    have hstandard : (e.surroundings b.host).registry = .standard := hregistry
    rw [hstandard] at hw
    exact .text hbody hw

/-- Computing a text for a workbook comes to an end, also if formulas refer to each other.  The
recursion has exactly one solution, with which the engine computes, and its depth is bounded.  At
every moment the held keys are distinct, one for each level, and keys of parts of ranges that are
written in the text or in the workbook, of which there are finitely many. -/
theorem Reached.evaluation_bounded {settings : Settings} {e : Engine} (he : Reached settings [] e)
    (b : Workbook) (text : String) (o : Options) :
    ∃ readers : Nat → Reader,
      (∀ readers', Unlimited (e.surroundings b.host) readers' ↔ readers' = readers) ∧
      e.tryEvaluate b.host text o =
        e.after (computeText (e.surroundings b.host) readers text o e.memory) ∧
      (possibleKeys b text o).Finite ∧
      ∀ level held, Moment (e.surroundings b.host) readers ⟨text, o, e.memory⟩ level held →
        held.Nodup ∧ held.length = level ∧ (∀ key ∈ held, key ∈ possibleKeys b text o) ∧
          level ≤ (possibleKeys b text o).ncard := by
  have hunlimited : Unlimited (e.surroundings b.host) (e.reader b.host) := by
    rw [reader_eq]
    exact readerAt_unlimited (b := b) rfl
  refine ⟨e.reader b.host, ?_, tryEvaluate_eq e b.host text o, finite_possibleKeys b text o, ?_⟩
  · intro readers'
    constructor
    · exact fun h => h.unique (b := b) rfl hunlimited
    · rintro rfl
      exact hunlimited
  · intro level held h
    rw [reader_eq] at h
    have hregistry : (e.surroundings b.host).registry = .standard := he.atRest.2
    obtain ⟨hnodup, hlength, hpossible⟩ :=
      h.spec (b := b) rfl hregistry (he.proper b text o)
    refine ⟨hnodup, hlength, hpossible, ?_⟩
    rw [← hlength]
    exact length_le_ncard (finite_possibleKeys b text o) hnodup hpossible

/-- A text that refers to a cell whose formula refers to the cell itself. -/
theorem Reached.evaluation_bounded_of_self_reference :
    let b : Workbook := ⟨[⟨"a", 1, 1, [((0, 0), { content := .formula "=A1" })], [], []⟩], 0⟩
    let e := Engine.new {}
    Reached {} [] e ∧
      ∃ readers, Unlimited (e.surroundings b.host) readers ∧
        ∀ level held,
          Moment (e.surroundings b.host) readers ⟨"=A1+1", {}, e.memory⟩ level held →
            held.Nodup ∧ level ≤ (possibleKeys b "=A1+1" {}).ncard := by
  intro b e
  have he : Reached {} [] e := .new
  obtain ⟨readers, hunique, -, -, hmoment⟩ := Reached.evaluation_bounded he b "=A1+1" {}
  refine ⟨he, readers, (hunique readers).2 rfl, ?_⟩
  intro level held h
  obtain ⟨hnodup, -, -, hbound⟩ := hmoment level held h
  exact ⟨hnodup, hbound⟩

end Spreadsheet.Engine
