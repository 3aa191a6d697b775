import Mathlib.Data.Finset.Card
import Spreadsheet.Proofs.Engine.Caching

/-!
# Attempts to parse

A formula is parsed when its tree is not kept, and this may end in an error.
Computing one text may mean many such attempts, since other formulas are computed
on the way.  Here the attempts of a computation are listed in the order in which
they end, those of nested formulas included (`textAttempts` … `recorderAt`).  The
definitions follow those of the computation, case by case.

What the attempts say is all that happens to the cache (`Replays`): an attempt
that fails is counted and keeps nothing, and one that succeeds is counted and
keeps one more tree, after all others were dropped if there were too many.  For
hosts that know no names there is no attempt for a text whose tree is kept
already, since parsing a text with a tree asks for no cells.

`Recorded` says this of a computation.  It is shown for each function of the
computation from the same for the readers, and for these by induction on the
number of keys that are free (`readerAt_recorded`).
-/

namespace Spreadsheet.Engine

open Spreadsheet.Evaluation
open Spreadsheet.Formula (Error Expr Reference Registry)

/-! ## Attempts -/

/-- An attempt to parse a formula. -/
structure Attempt where
  /-- The text. -/
  text : String
  /-- Whether it came to a tree. -/
  succeeded : Bool
  /-- How many trees are kept right after it. -/
  kept : Nat

/-- The attempts that a reader makes. -/
structure Recorder where
  /-- When it is asked for the first cell of a reference. -/
  cell : Reference → Memory → List Attempt
  /-- When it is asked for the cells of a reference. -/
  cells : Reference → Bool → Memory → List Attempt

section

variable (s : Surroundings)

/-- The attempts while a program runs. -/
def runAttempts {α : Type} (r : Reader) (l : Recorder) : Program α → Memory → List Attempt
  | .done _, _ => []
  | .fail _, _ => []
  | .readCell ref next, m =>
    l.cell ref m ++
      match r.cell ref m with
      | (.ok v, m) => runAttempts r l (next v) m
      | (.error _, _) => []
  | .readCells ref hidden next, m =>
    l.cells ref hidden m ++
      match r.cells ref hidden m with
      | (.ok vs, m) => runAttempts r l (next vs) m
      | (.error _, _) => []

/-- The attempts while the tree of a formula is found, the last of which is its own. -/
def treeAttempts (r : Reader) (l : Recorder) (c : Context) (text body : String) (m : Memory) :
    List Attempt :=
  match if s.settings.cacheEnabled then m.cache.find? text else none with
  | some _ => []
  | none =>
    runAttempts r l (s.parse c body) { m with parsed := m.parsed + 1 } ++
      [{ text := text
         succeeded := (run r (s.parse c body) { m with parsed := m.parsed + 1 }).1.isOk
         kept := (treeOf s r c text body m).2.cache.size }]

variable (readers : Nat → Reader) (recorders : Nat → Recorder)

/-- The attempts while a text is computed. -/
def textAttempts (text : String) (o : Options) (m : Memory) : List Attempt :=
  match formulaBody? text with
  | none => []
  | some body =>
    let r := readers (o.sheet.getD s.host.selected)
    let l := recorders (o.sheet.getD s.host.selected)
    let c := s.context o
    treeAttempts s r l c text body m ++
      match treeOf s r c text body m with
      | (.error _, _) => []
      | (.ok e, m) => runAttempts r l (settled c e) m

/-- The attempts while the value of a cell is computed. -/
def valueAttempts (sheet row column : Nat) (m : Memory) : List Attempt :=
  match s.host.content sheet row column with
  | .formula text => textAttempts s readers recorders text (cellOptions sheet row column) m
  | _ => []

/-- The attempts while the values of cells are computed one after the other. -/
def valuesAttempts (sheet : Nat) : List (Nat × Nat) → Memory → List Attempt
  | [], _ => []
  | cell :: cells, m =>
    valueAttempts s readers recorders sheet cell.1 cell.2 m ++
      valuesAttempts sheet cells (valueAt s readers sheet cell.1 cell.2 m).2

/-- The attempts while a key is held. -/
def holdingAttempts (key : String) (body : Memory → List Attempt) (m : Memory) : List Attempt :=
  match m.hold? key with
  | none => []
  | some m => body m

/-- The attempts while the first cell of a reference is read. -/
def cellAttempts (sheet : Nat) (r : Reference) (m : Memory) : List Attempt :=
  match sheetOf s.host sheet r with
  | .error _ => []
  | .ok i =>
    holdingAttempts (keyOf s.host i r.range)
      (valueAttempts s readers recorders i r.range.top r.range.left) m

/-- The attempts while the cells of a reference are read. -/
def cellsAttempts (sheet : Nat) (r : Reference) (includeHidden : Bool) (column : Option Nat)
    (m : Memory) : List Attempt :=
  match sheetOf s.host sheet r with
  | .error _ => []
  | .ok i =>
    if s.host.rows i ≤ r.range.bottom || s.host.columns i ≤ r.range.right then []
    else
      holdingAttempts (keyOf s.host i r.range)
        (valuesAttempts s readers recorders i (cellsToRead s.host i r.range includeHidden column)) m

end

/-- The attempts of the readers for formulas when the given number of keys can still be held. -/
def recorderAt (s : Surroundings) : Nat → Nat → Recorder
  | 0, _ =>
    { cell := fun _ _ => []
      cells := fun _ _ _ => [] }
  | free + 1, sheet =>
    { cell := fun r m => cellAttempts s (readerAt s free) (recorderAt s free) sheet r m
      cells := fun r hidden m =>
        cellsAttempts s (readerAt s free) (recorderAt s free) sheet r hidden none m }

/-! ## What attempts do to the cache -/

/-- The texts whose trees are kept, the last one first. -/
def Memory.keptTexts (m : Memory) : List String := m.cache.entries.map (·.1)

/-- The texts whose trees are kept after one more is. -/
def keeping (settings : Settings) (texts : List String) (text : String) : List String :=
  if settings.cacheEnabled then
    text :: (if settings.capacity ≤ texts.length then [] else texts).filter (· != text)
  else texts

/-- Some attempts lead from the kept texts before to those after.  If the attempts are for fresh
texts, those that succeed are for texts whose trees are not kept at that time. -/
inductive Replays (settings : Settings) (fresh : Prop) :
    List String → List Attempt → List String → Prop where
  /-- No attempt. -/
  | nil {texts} : Replays settings fresh texts [] texts
  /-- An attempt that fails before some others. -/
  | failed {texts text attempts texts'} :
    Replays settings fresh texts attempts texts' →
      Replays settings fresh texts (⟨text, false, texts.length⟩ :: attempts) texts'
  /-- An attempt that succeeds before some others. -/
  | succeeded {texts text attempts texts'} :
    (fresh → text ∉ texts) →
    Replays settings fresh (keeping settings texts text) attempts texts' →
      Replays settings fresh texts
        (⟨text, true, (keeping settings texts text).length⟩ :: attempts) texts'

section

variable {settings : Settings} {fresh : Prop} {texts texts' texts'' : List String}
  {attempts attempts' : List Attempt}

theorem Replays.append (h : Replays settings fresh texts attempts texts')
    (h' : Replays settings fresh texts' attempts' texts'') :
    Replays settings fresh texts (attempts ++ attempts') texts'' := by
  induction h with
  | nil => exact h'
  | failed _ ih => exact .failed (ih h')
  | succeeded hfresh _ ih => exact .succeeded hfresh (ih h')

theorem length_keeping_le (settings : Settings) {texts : List String}
    (h : texts.length ≤ max settings.capacity 1) (text : String) :
    (keeping settings texts text).length ≤ max settings.capacity 1 := by
  unfold keeping
  split
  · split
    · exact Nat.le_max_right _ _
    · next hless =>
      have hfilter := List.length_filter_le (· != text) texts
      rw [List.length_cons]
      omega
  · exact h

/-- However often trees are kept, there are never too many. -/
theorem Replays.length_le (h : Replays settings fresh texts attempts texts')
    (htexts : texts.length ≤ max settings.capacity 1) :
    texts'.length ≤ max settings.capacity 1 ∧
      ∀ a ∈ attempts, a.kept ≤ max settings.capacity 1 := by
  induction h with
  | nil => exact ⟨htexts, List.forall_mem_nil _⟩
  | failed _ ih =>
    obtain ⟨hlength, hall⟩ := ih htexts
    exact ⟨hlength, List.forall_mem_cons.2 ⟨htexts, hall⟩⟩
  | @succeeded texts text _ _ _ _ ih =>
    have hkeeping := length_keeping_le settings htexts text
    obtain ⟨hlength, hall⟩ := ih hkeeping
    exact ⟨hlength, List.forall_mem_cons.2 ⟨hkeeping, hall⟩⟩

/-- An engine that keeps no trees never does. -/
theorem Replays.eq_nil (h : Replays settings fresh texts attempts texts')
    (hdisabled : settings.cacheEnabled = false) (htexts : texts = []) :
    texts' = [] ∧ ∀ a ∈ attempts, a.kept = 0 := by
  induction h with
  | nil => exact ⟨htexts, List.forall_mem_nil _⟩
  | failed _ ih =>
    obtain ⟨hnil, hall⟩ := ih htexts
    exact ⟨hnil, List.forall_mem_cons.2 ⟨by rw [htexts]; rfl, hall⟩⟩
  | @succeeded texts text _ _ _ _ ih =>
    have hkeeping : keeping settings texts text = [] := by
      simpa [keeping, hdisabled] using htexts
    obtain ⟨hnil, hall⟩ := ih hkeeping
    exact ⟨hnil, List.forall_mem_cons.2 ⟨by rw [hkeeping]; rfl, hall⟩⟩

/-- The texts of the attempts that succeeded. -/
def parsedTexts (attempts : List Attempt) : List String :=
  (attempts.filter (·.succeeded)).map (·.text)

/-- The number of attempts that failed. -/
def failures (attempts : List Attempt) : Nat := attempts.countP fun a => !a.succeeded

theorem length_eq_add_failures (attempts : List Attempt) :
    attempts.length = (parsedTexts attempts).length + failures attempts := by
  rw [parsedTexts, failures, List.length_map, ← List.countP_eq_length_filter,
    List.length_eq_countP_add_countP (·.succeeded)]
  simp

/-- As long as the trees of all texts fit in, each is kept when its text is parsed for the first
time, and there is no second time. -/
theorem Replays.eq_reverse_append (h : Replays settings fresh texts attempts texts')
    (hfresh : fresh) (henabled : settings.cacheEnabled = true) (hnodup : texts.Nodup)
    (hfits : ((parsedTexts attempts).toFinset ∪ texts.toFinset).card ≤ settings.capacity) :
    texts' = (parsedTexts attempts).reverse ++ texts ∧ texts'.Nodup := by
  induction h with
  | nil => exact ⟨rfl, hnodup⟩
  | failed _ ih => exact ih hnodup hfits
  | @succeeded texts text attempts texts' hnew _ ih =>
    have hnew := hnew hfresh
    have hnodup' : (text :: texts).Nodup := List.nodup_cons.2 ⟨hnew, hnodup⟩
    have hunion :
        (parsedTexts (⟨text, true, (keeping settings texts text).length⟩ :: attempts)).toFinset ∪
          texts.toFinset = (parsedTexts attempts).toFinset ∪ (text :: texts).toFinset := by
      change (text :: parsedTexts attempts).toFinset ∪ texts.toFinset = _
      rw [List.toFinset_cons, List.toFinset_cons, Finset.insert_union, Finset.union_insert]
    rw [hunion] at hfits
    have hroom : texts.length < settings.capacity :=
      calc
        texts.length < (text :: texts).length := Nat.lt_succ_self _
        _ = (text :: texts).toFinset.card := (List.toFinset_card_of_nodup hnodup').symm
        _ ≤ _ := Finset.card_le_card Finset.subset_union_right
        _ ≤ settings.capacity := hfits
    have hkeeping : keeping settings texts text = text :: texts := by
      have hfilter : texts.filter (· != text) = texts :=
        List.filter_eq_self.2 fun text' htext' => bne_iff_ne.2 fun heq => hnew (heq ▸ htext')
      rw [keeping, if_pos henabled, if_neg (Nat.not_le.2 hroom), hfilter]
    rw [hkeeping] at ih
    obtain ⟨rfl, hnodup⟩ := ih hnodup' hfits
    refine ⟨?_, hnodup⟩
    simp [parsedTexts]

end

/-! ## Computations and their attempts -/

/-- Some attempts lead from one memory to another. -/
structure Leads (settings : Settings) (fresh : Prop) (m : Memory) (attempts : List Attempt)
    (m' : Memory) : Prop where
  /-- The number of trees that are kept is still bounded in the same way. -/
  capacity : m'.cache.capacity = m.cache.capacity
  /-- All attempts are counted. -/
  parsed : m'.parsed = m.parsed + attempts.length
  /-- The cache changes with the attempts. -/
  replays : m.cache.capacity = settings.capacity →
    Replays settings fresh m.keptTexts attempts m'.keptTexts

/-- The attempts of a computation lead from the memory before to the memory after it. -/
def Recorded {α : Type} (settings : Settings) (fresh : Prop) (f : Memory → α × Memory)
    (l : Memory → List Attempt) : Prop :=
  ∀ m, Leads settings fresh m (l m) (f m).2

/-- The attempts of a reader lead on, whatever it is asked. -/
structure Reader.Recorded (settings : Settings) (fresh : Prop) (r : Reader) (l : Recorder) :
    Prop where
  /-- When it is asked for the first cell of a reference. -/
  cell : ∀ ref, Engine.Recorded settings fresh (r.cell ref) (l.cell ref)
  /-- When it is asked for the cells of a reference. -/
  cells : ∀ ref hidden, Engine.Recorded settings fresh (r.cells ref hidden) (l.cells ref hidden)

section

variable {settings : Settings} {fresh : Prop}

theorem Leads.refl (m : Memory) : Leads settings fresh m [] m := ⟨rfl, rfl, fun _ => .nil⟩

theorem Leads.trans {m m' m'' : Memory} {attempts attempts' : List Attempt}
    (h : Leads settings fresh m attempts m') (h' : Leads settings fresh m' attempts' m'') :
    Leads settings fresh m (attempts ++ attempts') m'' where
  capacity := h'.capacity.trans h.capacity
  parsed := by rw [h'.parsed, h.parsed, List.length_append, Nat.add_assoc]
  replays hcapacity := (h.replays hcapacity).append (h'.replays (h.capacity.trans hcapacity))

theorem run_recorded {α : Type} {r : Reader} {l : Recorder} (hr : r.Recorded settings fresh l)
    (p : Program α) : Recorded settings fresh (run r p) (runAttempts r l p) := by
  induction p with
  | done a => exact fun m => .refl m
  | fail e => exact fun m => .refl m
  | readCell ref next ih =>
    intro m
    have hanswer := hr.cell ref m
    simp only [run, runAttempts]
    generalize r.cell ref m = answer at hanswer ⊢
    obtain ⟨e | v, m'⟩ := answer
    · exact hanswer.trans (.refl m')
    · exact hanswer.trans (ih v m')
  | readCells ref hidden next ih =>
    intro m
    have hanswer := hr.cells ref hidden m
    simp only [run, runAttempts]
    generalize r.cells ref hidden m = answer at hanswer ⊢
    obtain ⟨e | vs, m'⟩ := answer
    · exact hanswer.trans (.refl m')
    · exact hanswer.trans (ih vs m')

theorem holding_recorded {α : Type} {key : String} {body : Memory → α × Memory}
    {l : Memory → List Attempt} (h : Recorded settings fresh body l) :
    Recorded settings fresh (holding key body) (holdingAttempts key l) := by
  intro m
  unfold holding holdingAttempts
  cases hhold : m.hold? key with
  | none => exact .refl m
  | some m' =>
    obtain ⟨-, rfl⟩ := Memory.hold?_eq_some.1 hhold
    obtain ⟨hcapacity, hparsed, hreplays⟩ := h { m with held := key :: m.held }
    exact ⟨hcapacity, hparsed, hreplays⟩

/-- Keeping a tree, if trees are kept at all, is what an attempt that succeeds does. -/
theorem replays_kept (m : Memory) (text : String) (e : Expr) (hnew : fresh → text ∉ m.keptTexts)
    (m' : Memory)
    (hm' : m' = if settings.cacheEnabled then { m with cache := m.cache.insert text e } else m) :
    m'.cache.capacity = m.cache.capacity ∧ m'.parsed = m.parsed ∧
      (m.cache.capacity = settings.capacity →
        Replays settings fresh m.keptTexts [⟨text, true, m'.cache.size⟩] m'.keptTexts) := by
  have hfilter (entries : List (String × Expr)) :
      (entries.filter fun entry => entry.1 != text).map (·.1) =
        (entries.map (·.1)).filter (· != text) := by
    rw [List.filter_map]
    rfl
  have hkept (hcapacity : m.cache.capacity = settings.capacity) :
      m'.keptTexts = keeping settings m.keptTexts text := by
    rw [hm', keeping]
    split
    · simp only [Memory.keptTexts, Cache.insert, List.map_cons, hfilter, ← hcapacity,
        List.length_map]
      split <;> rfl
    · rfl
  have hsize : m'.cache.size = m'.keptTexts.length := (List.length_map _).symm
  refine ⟨?_, ?_, fun hcapacity => ?_⟩
  · rw [hm']
    split <;> rfl
  · rw [hm']
    split <;> rfl
  · rw [hsize, hkept hcapacity]
    exact .succeeded hnew .nil

/-- The text of a tree that is not found is none of those that are kept. -/
theorem notMem_keptTexts {m : Memory} {text : String} (h : m.cache.find? text = none) :
    text ∉ m.keptTexts := by
  rintro hmem
  obtain ⟨entry, hentry, rfl⟩ := List.mem_map.1 hmem
  simpa using List.lookup_eq_none_iff.1 h entry hentry

variable {s : Surroundings}
  (hfresh : fresh → s.host.KnowsNoNames ∧ s.settings.cacheEnabled = true)
include hfresh

/-- For a host that knows no names, a text comes to a tree without anything else being parsed, so it
is as fresh afterwards as it was before. -/
theorem notMem_keptTexts_of_parse {r : Reader} {c : Context} {text body : String} {m m' : Memory}
    {e : Expr} (hkept : (if s.settings.cacheEnabled then m.cache.find? text else none) = none)
    (hrun : run r (s.parse c body) { m with parsed := m.parsed + 1 } = (.ok e, m')) (h : fresh) :
    text ∉ m'.keptTexts := by
  obtain ⟨hnames, henabled⟩ := hfresh h
  rw [if_pos henabled] at hkept
  have hparse := parse_eq_done hnames c
    (parse_of_run hnames (congrArg Prod.fst hrun))
  rw [hparse] at hrun
  obtain ⟨-, rfl⟩ := Prod.mk.inj hrun
  exact notMem_keptTexts hkept

theorem treeOf_recorded {r : Reader} {l : Recorder} (hr : r.Recorded s.settings fresh l)
    (c : Context) (text body : String) :
    Recorded s.settings fresh (treeOf s r c text body) (treeAttempts s r l c text body) := by
  intro m
  cases hkept : if s.settings.cacheEnabled then m.cache.find? text else none with
  | some e =>
    simp only [treeAttempts, treeOf, hkept]
    exact .refl m
  | none =>
    have hnested := run_recorded hr (s.parse c body) { m with parsed := m.parsed + 1 }
    have hnew (e : Expr) (m' : Memory)
        (hrun : run r (s.parse c body) { m with parsed := m.parsed + 1 } = (.ok e, m')) :
        fresh → text ∉ m'.keptTexts :=
      notMem_keptTexts_of_parse hfresh hkept hrun
    simp only [treeAttempts, treeOf, hkept]
    generalize run r (s.parse c body) { m with parsed := m.parsed + 1 } = answer at hnested hnew ⊢
    obtain ⟨hcapacity, hparsed, hreplays⟩ := hnested
    dsimp only at hparsed
    obtain ⟨e | e, m'⟩ := answer
    · refine ⟨hcapacity, ?_, fun h => (hreplays h).append ?_⟩
      · rw [hparsed, List.length_append, List.length_singleton]
        omega
      · have hsize : m'.cache.size = m'.keptTexts.length := (List.length_map _).symm
        exact hsize ▸ .failed .nil
    · have hnew := hnew e m' rfl
      obtain ⟨hcapacity', hparsed', hreplays'⟩ := replays_kept m' text e hnew _ rfl
      refine ⟨hcapacity'.trans hcapacity, ?_, fun h => (hreplays h).append ?_⟩
      · rw [hparsed', hparsed, List.length_append, List.length_singleton]
        omega
      · exact hreplays' (hcapacity.trans h)

variable {readers : Nat → Reader} {recorders : Nat → Recorder}
  (hreaders : ∀ i, (readers i).Recorded s.settings fresh (recorders i))
include hreaders

theorem computeText_recorded (text : String) (o : Options) :
    Recorded s.settings fresh (computeText s readers text o)
      (textAttempts s readers recorders text o) := by
  intro m
  unfold computeText textAttempts
  cases formulaBody? text with
  | none => exact .refl m
  | some body =>
    dsimp only
    generalize o.sheet.getD s.host.selected = sheet
    have htree := treeOf_recorded hfresh (hreaders sheet) (s.context o) text body m
    generalize treeOf s (readers sheet) (s.context o) text body m = answer at htree ⊢
    obtain ⟨e | e, m'⟩ := answer
    · exact htree.trans (.refl m')
    · exact htree.trans (run_recorded (hreaders sheet) (settled (s.context o) e) m')

theorem valueAt_recorded (sheet row column : Nat) :
    Recorded s.settings fresh (valueAt s readers sheet row column)
      (valueAttempts s readers recorders sheet row column) := by
  intro m
  unfold valueAt valueAttempts
  cases s.host.content sheet row column with
  | formula text =>
    have htext := computeText_recorded hfresh hreaders text (cellOptions sheet row column) m
    unfold cellOptions at htext ⊢
    dsimp only
    generalize computeText s readers text _ m = answer at htext ⊢
    exact htext
  | _ => exact .refl m

theorem valuesAt_recorded (sheet : Nat) (cells : List (Nat × Nat)) :
    Recorded s.settings fresh (valuesAt s readers sheet cells)
      (valuesAttempts s readers recorders sheet cells) := by
  have honto (values : List Value) :
      Recorded s.settings fresh (valuesOnto s readers sheet cells values)
        (valuesAttempts s readers recorders sheet cells) := by
    induction cells generalizing values with
    | nil => exact fun m => .refl m
    | cons cell cells ih =>
      exact fun m => (valueAt_recorded hfresh hreaders sheet cell.1 cell.2 m).trans (ih _ _)
  intro m
  rw [valuesAt_eq]
  exact honto [] m

theorem readCell_recorded (sheet : Nat) (ref : Reference) :
    Recorded s.settings fresh (readCell s readers sheet ref)
      (cellAttempts s readers recorders sheet ref) := by
  intro m
  unfold readCell cellAttempts
  cases sheetOf s.host sheet ref with
  | error e => exact .refl m
  | ok i => exact holding_recorded (valueAt_recorded hfresh hreaders i _ _) m

theorem readCells_recorded (sheet : Nat) (ref : Reference) (hidden : Bool) (column : Option Nat) :
    Recorded s.settings fresh (readCells s readers sheet ref hidden column)
      (cellsAttempts s readers recorders sheet ref hidden column) := by
  intro m
  unfold readCells cellsAttempts
  cases sheetOf s.host sheet ref with
  | error e => exact .refl m
  | ok i =>
    dsimp only
    split
    · exact .refl m
    · exact holding_recorded (valuesAt_recorded hfresh hreaders i _) m

omit hreaders

/-- The attempts of the readers are recorded at every level of nesting. -/
theorem readerAt_recorded (n sheet : Nat) :
    (readerAt s n sheet).Recorded s.settings fresh (recorderAt s n sheet) := by
  induction n generalizing sheet with
  | zero => exact ⟨fun _ m => .refl m, fun _ _ m => .refl m⟩
  | succ n ih =>
    constructor
    · exact readCell_recorded hfresh ih sheet
    · exact fun ref hidden => readCells_recorded hfresh ih sheet ref hidden none

end

end Spreadsheet.Engine
