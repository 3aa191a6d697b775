import Mathlib.Data.List.Basic
import Spreadsheet.Engine.Basic
import Spreadsheet.Proofs.Engine.Guarded

/-!
# Computing while trees are kept

What an engine computes does not depend on the trees that it keeps, as long as
these are the ones that parsing would give.  Here it is said what that takes, for
any assignment of trees to texts (`Trees`).

* Where every tree that parsing can come to may be kept (`Admits`), whatever is
  computed leaves sound trees behind.  It holds the keys that it held before, also
  when it ends in an error (`readerAt_keeps`).
* An assignment *fits* a host and the texts that are computed for it if besides the
  trees that may be kept for these texts are what parsing gives, wherever the
  formula stands and whatever cells hold (`Fits`).  Then a computation that starts
  with sound trees gives the result of the formulas without memory
  (`readerAt_gives`).
-/

namespace Spreadsheet.Engine

open Spreadsheet.Evaluation
open Spreadsheet.Formula (Error Expr Reference Registry)
open Spreadsheet.Grid (Range)

/-! ## Sound trees -/

/-- The trees that may be kept for texts. -/
def Trees : Type := String → Expr → Prop

/-- Every tree that is kept is one that may be kept for its text. -/
def Memory.Sound (trees : Trees) (m : Memory) : Prop :=
  ∀ entry ∈ m.cache.entries, trees entry.1 entry.2

namespace Memory.Sound

variable {trees : Trees} {m : Memory}

theorem find {text : String} {e : Expr} (h : m.Sound trees)
    (he : m.cache.find? text = some e) : trees text e := by
  obtain ⟨before, after, hentries, -⟩ := List.lookup_eq_some_iff.1 he
  apply h (text, e)
  rw [hentries]
  exact List.mem_append_right _ List.mem_cons_self

/-- The trees stay sound when one more is kept, whichever are dropped for it. -/
theorem insert {text : String} {e : Expr} (h : m.Sound trees) (he : trees text e) :
    Memory.Sound trees { m with cache := m.cache.insert text e } := by
  intro entry hentry
  rcases List.mem_cons.1 hentry with rfl | hentry
  · exact he
  · have hkept := List.mem_of_mem_filter hentry
    split at hkept
    · exact absurd hkept List.not_mem_nil
    · exact h entry hkept

end Memory.Sound

/-- Whatever tree parsing comes to may be kept. -/
structure Admits (trees : Trees) (s : Surroundings) : Prop where
  /-- It comes to a tree, with whatever it is answered. -/
  kept : ∀ {text body c r m e}, formulaBody? text = some body →
    (run r (s.parse c body) m).1 = .ok e → trees text e

/-- Trees fit a host and some texts. -/
structure Fits (trees : Trees) (texts : String → Prop) (s : Surroundings) : Prop
    extends Admits trees s where
  /-- What may be kept for one of the texts is what parsing gives. -/
  given : ∀ {text body e}, texts text → trees text e → formulaBody? text = some body →
    ∀ c q, (s.parse c body).under q = .ok e
  /-- The formulas in cells are among the texts. -/
  cells : ∀ {i row column text}, s.host.content i row column = .formula text → texts text

/-- A key that is held now was free before. -/
theorem Memory.hold?_eq_some {m m' : Memory} {key : String} :
    m.hold? key = some m' ↔ key ∉ m.held ∧ { m with held := key :: m.held } = m' := by
  unfold hold?
  split
  next h => simp_all
  next h => simp_all

/-! ## Keeping trees sound -/

/-- A computation keeps the trees sound and holds the same keys afterwards. -/
def Keeps {α : Type} (trees : Trees) (held : List String) (f : Memory → α × Memory) : Prop :=
  ∀ m : Memory, m.held = held → m.Sound trees → (f m).2.held = held ∧ (f m).2.Sound trees

/-- Whatever a reader is asked, it keeps the trees sound. -/
structure Reader.Keeps (trees : Trees) (held : List String) (r : Reader) : Prop where
  /-- When it is asked for the first cell of a reference. -/
  cell : ∀ ref, Engine.Keeps trees held (r.cell ref)
  /-- When it is asked for the cells of a reference. -/
  cells : ∀ ref hidden, Engine.Keeps trees held (r.cells ref hidden)

section

variable {trees : Trees} {held : List String}

theorem Keeps.const {α : Type} (a : α) : Keeps trees held fun m => (a, m) :=
  fun _ hheld hm => ⟨hheld, hm⟩

theorem run_keeps {α : Type} {r : Reader} (hr : r.Keeps trees held) (p : Program α) :
    Keeps trees held (run r p) := by
  induction p with
  | done a => exact .const _
  | fail e => exact .const _
  | readCell ref next ih =>
    intro m hheld hm
    obtain ⟨hheld', hm'⟩ := hr.cell ref m hheld hm
    simp only [run]
    generalize r.cell ref m = answer at hheld' hm'
    obtain ⟨answer | v, m'⟩ := answer
    · exact ⟨hheld', hm'⟩
    · exact ih v m' hheld' hm'
  | readCells ref hidden next ih =>
    intro m hheld hm
    obtain ⟨hheld', hm'⟩ := hr.cells ref hidden m hheld hm
    simp only [run]
    generalize r.cells ref hidden m = answer at hheld' hm'
    obtain ⟨answer | vs, m'⟩ := answer
    · exact ⟨hheld', hm'⟩
    · exact ih vs m' hheld' hm'

theorem holding_keeps {α : Type} {key : String} {body : Memory → α × Memory}
    (h : Keeps trees (key :: held) body) : Keeps trees held (holding key body) := by
  intro m hheld hm
  unfold holding Memory.hold?
  rw [hheld]
  split
  next => exact ⟨hheld, hm⟩
  next m' hm' =>
    split at hm'
    · cases hm'
    · obtain rfl := Option.some.inj hm'
      obtain ⟨hheld', hsound⟩ := h { m with held := key :: held } rfl hm
      refine ⟨?_, hsound⟩
      simp only [Memory.release, hheld', List.erase_cons_head]

variable {s : Surroundings} (hs : Admits trees s)
include hs

/-- Neither taking a tree from the cache nor keeping a new one does any harm. -/
theorem treeOf_keeps {r : Reader} (hr : r.Keeps trees held) (c : Context) {text body : String}
    (hbody : formulaBody? text = some body) : Keeps trees held (treeOf s r c text body) := by
  intro m hheld hm
  unfold treeOf
  split
  next => exact ⟨hheld, hm⟩
  next =>
    have he {e : Expr} := hs.kept (e := e) (c := c) (r := r)
      (m := { m with parsed := m.parsed + 1 }) hbody
    obtain ⟨hheld', hm'⟩ :=
      run_keeps hr (s.parse c body) { m with parsed := m.parsed + 1 } hheld hm
    generalize run r (s.parse c body) { m with parsed := m.parsed + 1 } = answer
      at he hheld' hm'
    obtain ⟨e | e, m'⟩ := answer
    · exact ⟨hheld', hm'⟩
    · dsimp only
      split
      · exact ⟨hheld', hm'.insert (he rfl)⟩
      · exact ⟨hheld', hm'⟩

variable {readers : Nat → Reader}

theorem computeText_keeps (hreaders : ∀ i, (readers i).Keeps trees held) (text : String)
    (o : Options) : Keeps trees held (computeText s readers text o) := by
  intro m hheld hm
  unfold computeText
  cases hbody : formulaBody? text with
  | none => exact ⟨hheld, hm⟩
  | some body =>
    dsimp only
    generalize o.sheet.getD s.host.selected = sheet
    obtain ⟨hheld', hm'⟩ := treeOf_keeps hs (hreaders sheet) (s.context o) hbody m hheld hm
    generalize treeOf s (readers sheet) (s.context o) text body m = answer at hheld' hm'
    obtain ⟨e | e, m'⟩ := answer
    · exact ⟨hheld', hm'⟩
    · exact run_keeps (hreaders sheet) (settled (s.context o) e) m' hheld' hm'

theorem valueAt_keeps (hreaders : ∀ i, (readers i).Keeps trees held) (sheet row column : Nat) :
    Keeps trees held (valueAt s readers sheet row column) := by
  intro m hheld hm
  unfold valueAt
  cases s.host.content sheet row column with
  | formula text =>
    have hkeeps := computeText_keeps hs hreaders text (cellOptions sheet row column) m hheld hm
    unfold cellOptions at hkeeps
    dsimp only
    generalize computeText s readers text _ m = answer at hkeeps
    obtain ⟨result, m'⟩ := answer
    exact hkeeps
  | _ => exact ⟨hheld, hm⟩

theorem valuesAt_keeps (hreaders : ∀ i, (readers i).Keeps trees held) (sheet : Nat)
    (cells : List (Nat × Nat)) : Keeps trees held (valuesAt s readers sheet cells) := by
  have honto (values : List Value) :
      Keeps trees held (valuesOnto s readers sheet cells values) := by
    induction cells generalizing values with
    | nil => exact .const values
    | cons cell cells ih =>
      intro m hheld hm
      obtain ⟨hheld', hm'⟩ := valueAt_keeps hs hreaders sheet cell.1 cell.2 m hheld hm
      exact ih _ _ hheld' hm'
  intro m hheld hm
  rw [valuesAt_eq]
  exact honto [] m hheld hm

variable (hreaders : ∀ key i, (readers i).Keeps trees (key :: held))
include hreaders

theorem readCell_keeps (sheet : Nat) (ref : Reference) :
    Keeps trees held (readCell s readers sheet ref) := by
  intro m hheld hm
  unfold readCell
  cases sheetOf s.host sheet ref with
  | error e => exact ⟨hheld, hm⟩
  | ok i => exact holding_keeps (valueAt_keeps hs (hreaders _) i _ _) m hheld hm

theorem readCells_keeps (sheet : Nat) (ref : Reference) (hidden : Bool) (column : Option Nat) :
    Keeps trees held (readCells s readers sheet ref hidden column) := by
  intro m hheld hm
  unfold readCells
  cases sheetOf s.host sheet ref with
  | error e => exact ⟨hheld, hm⟩
  | ok i =>
    dsimp only
    split
    · exact ⟨hheld, hm⟩
    · exact holding_keeps (valuesAt_keeps hs (hreaders _) i _) m hheld hm

omit hreaders

/-- A reader keeps trees sound at every level of nesting. -/
theorem readerAt_keeps (n : Nat) (held : List String) (sheet : Nat) :
    (readerAt s n sheet).Keeps trees held := by
  induction n generalizing held sheet with
  | zero => exact ⟨fun _ => .const _, fun _ _ => .const _⟩
  | succ n ih =>
    constructor
    · exact readCell_keeps hs (fun key => ih (key :: held)) sheet
    · exact fun ref hidden =>
        readCells_keeps hs (fun key => ih (key :: held)) sheet ref hidden none

end

/-! ## Results

Where trees fit, a computation has the same result for every memory with sound
trees and with the same keys held. -/

/-- From sound trees and with some keys held a computation gives a result. -/
def Computes {α : Type} (trees : Trees) (held : List String) (f : Memory → α × Memory)
    (a : α) : Prop :=
  ∀ m : Memory, m.held = held → m.Sound trees → (f m).1 = a

/-- A reader keeps trees sound and gives answers. -/
structure Reader.Gives (trees : Trees) (held : List String) (r : Reader) (q : Answers) : Prop
    extends r.Keeps trees held where
  /-- It does so for the first cell of a reference. -/
  first : ∀ ref, Computes trees held (r.cell ref) (q.cell ref)
  /-- It does so for the cells of a reference. -/
  all : ∀ ref hidden, Computes trees held (r.cells ref hidden) (q.cells ref hidden)

section

variable {trees : Trees} {held : List String}

/-- Running a program gives its result under the answers of the reader. -/
theorem run_computes {α : Type} {r : Reader} {q : Answers} (hr : r.Gives trees held q)
    (p : Program α) : Computes trees held (run r p) (p.under q) := by
  induction p with
  | done a => exact fun _ _ _ => rfl
  | fail e => exact fun _ _ _ => rfl
  | readCell ref next ih =>
    intro m hheld hm
    obtain ⟨hheld', hm'⟩ := hr.cell ref m hheld hm
    simp only [run, Program.under, ← hr.first ref m hheld hm]
    generalize r.cell ref m = answer at hheld' hm'
    obtain ⟨answer | v, m'⟩ := answer
    · rfl
    · exact ih v m' hheld' hm'
  | readCells ref hidden next ih =>
    intro m hheld hm
    obtain ⟨hheld', hm'⟩ := hr.cells ref hidden m hheld hm
    simp only [run, Program.under, ← hr.all ref hidden m hheld hm]
    generalize r.cells ref hidden m = answer at hheld' hm'
    obtain ⟨answer | vs, m'⟩ := answer
    · rfl
    · exact ih vs m' hheld' hm'

/-- Holding a key adds it to the keys for as long as it takes. -/
theorem holding_computes {α : Type} {key : String} {body : Memory → α × Memory} {a : α}
    (h : Computes trees (key :: held) body a) :
    Computes trees held (holding key body)
      (if held.contains key then .error .circularReference else .ok a) := by
  intro m hheld hm
  unfold holding Memory.hold?
  rw [hheld]
  cases held.contains key with
  | true => rfl
  | false => exact congrArg Except.ok (h { m with held := key :: held } rfl hm)

variable {texts : String → Prop} {s : Surroundings} (hs : Fits trees texts s)
include hs

/-- The tree of a formula is the one that parsing gives, whether it is kept or not. -/
theorem treeOf_computes {r : Reader} {q : Answers} (hr : r.Gives trees held q) (c : Context)
    {text body : String} (htext : texts text) (hbody : formulaBody? text = some body) :
    Computes trees held (treeOf s r c text body) ((s.parse c body).under q) := by
  intro m hheld hm
  unfold treeOf
  cases hkept : if s.settings.cacheEnabled then m.cache.find? text else none with
  | some e =>
    have hfind : m.cache.find? text = some e := by
      split at hkept
      · exact hkept
      · cases hkept
    exact (hs.given htext (hm.find hfind) hbody c q).symm
  | none =>
    rw [← run_computes hr (s.parse c body) { m with parsed := m.parsed + 1 } hheld hm]
    dsimp only
    generalize run r (s.parse c body) { m with parsed := m.parsed + 1 } = answer
    obtain ⟨e | e, m'⟩ := answer
    · rfl
    · rfl

variable {readers : Nat → Reader} {answers : Nat → Answers}
  (hreaders : ∀ i, (readers i).Gives trees held (answers i))
include hreaders

/-- Computing a text gives its outcome under the answers of the readers. -/
theorem computeText_computes {text : String} (htext : texts text) (o : Options) :
    Computes trees held (computeText s readers text o) (s.outcome answers text o) := by
  intro m hheld hm
  unfold computeText Surroundings.outcome
  cases hbody : formulaBody? text with
  | none => rfl
  | some body =>
    dsimp only
    generalize o.sheet.getD s.host.selected = sheet
    have htree := treeOf_computes hs (hreaders sheet) (s.context o) htext hbody m hheld hm
    obtain ⟨hheld', hm'⟩ :=
      treeOf_keeps hs.toAdmits (hreaders sheet).toKeeps (s.context o) hbody m hheld hm
    unfold Surroundings.formula
    rw [Program.bind_eq, Program.under_bind, ← htree]
    generalize treeOf s (readers sheet) (s.context o) text body m = answer at hheld' hm'
    obtain ⟨e | e, m'⟩ := answer
    · rfl
    · have hresult := run_computes (hreaders sheet) (settled (s.context o) e) m' hheld' hm'
      exact congrArg (Except.map (formatted s o.format)) hresult

theorem valueAt_computes (sheet row column : Nat) :
    Computes trees held (valueAt s readers sheet row column)
      (s.value answers sheet row column) := by
  intro m hheld hm
  unfold valueAt Surroundings.value
  cases hcontent : s.host.content sheet row column with
  | formula text =>
    have hresult := computeText_computes hs hreaders (hs.cells hcontent)
      (cellOptions sheet row column) m hheld hm
    unfold cellOptions at *
    dsimp only
    generalize computeText s readers text _ m = answer at hresult
    obtain ⟨result, m'⟩ := answer
    exact congrArg orErrorText hresult
  | _ => rfl

/-- The values of cells come in reverse order before those that are there already. -/
theorem valuesOnto_computes (sheet : Nat) (cells : List (Nat × Nat)) (values : List Value) :
    Computes trees held (valuesOnto s readers sheet cells values)
      ((cells.map fun cell => (s.value answers sheet cell.1 cell.2).raw).reverse ++ values) := by
  induction cells generalizing values with
  | nil => exact fun _ _ _ => rfl
  | cons cell cells ih =>
    intro m hheld hm
    obtain ⟨hheld', hm'⟩ :=
      valueAt_keeps hs.toAdmits (fun i => (hreaders i).toKeeps) sheet cell.1 cell.2 m hheld hm
    simp only [valuesOnto, List.map_cons, List.reverse_cons, List.append_assoc,
      List.singleton_append, ← valueAt_computes hs hreaders sheet cell.1 cell.2 m hheld hm]
    exact ih _ _ hheld' hm'

/-- Computing cells one after the other gives the values of all of them. -/
theorem valuesAt_computes (sheet : Nat) (cells : List (Nat × Nat)) :
    Computes trees held (valuesAt s readers sheet cells)
      (cells.map fun cell => (s.value answers sheet cell.1 cell.2).raw) := by
  intro m hheld hm
  rw [valuesAt_eq]
  dsimp only
  rw [valuesOnto_computes hs hreaders sheet cells [] m hheld hm, List.append_nil,
    List.reverse_reverse]

end

/-! ## Readers -/

theorem entering_bind {α : Type} (s : Surroundings) (answers : List String → Nat → Answers)
    (held : List String) (i : Nat) (r : Range) (f : (Nat → Nat → Value) → α) :
    (entering s answers held i r >>= fun value => Except.ok (f value)) =
      if held.contains (keyOf s.host i r) then .error .circularReference
      else .ok (f (s.value (answers (keyOf s.host i r :: held)) i)) := by
  unfold entering
  split <;> rfl

section

variable {trees : Trees} {texts : String → Prop} {s : Surroundings} (hs : Fits trees texts s)
  {held : List String} {readers : Nat → Reader} {answers : List String → Nat → Answers}
  (hreaders : ∀ key i, (readers i).Gives trees (key :: held) (answers (key :: held) i))
include hs hreaders

/-- Reading a first cell gives the answer if this holds while one more key is held. -/
theorem readCell_computes (sheet : Nat) (r : Reference) :
    Computes trees held (readCell s readers sheet r)
      ((answering s.host (entering s answers held) sheet).cell r) := by
  simp only [answering]
  unfold readCell
  cases sheetOf s.host sheet r with
  | error e => exact fun _ _ _ => rfl
  | ok i =>
    have h : Computes trees held
        (holding (keyOf s.host i r.range) (valueAt s readers i r.range.top r.range.left)) _ :=
      holding_computes (valueAt_computes hs (hreaders _) i r.range.top r.range.left)
    rw [← entering_bind s answers held i r.range fun value => value r.range.top r.range.left] at h
    exact h

/-- Reading the cells of a range gives the answer under the same condition. -/
theorem readCells_computes (sheet : Nat) (r : Reference) (hidden : Bool) :
    Computes trees held (readCells s readers sheet r hidden none)
      ((answering s.host (entering s answers held) sheet).cells r hidden) := by
  simp only [answering]
  unfold readCells
  cases sheetOf s.host sheet r with
  | error e => exact fun _ _ _ => rfl
  | ok i =>
    change Computes _ _ _ (if _ then _ else _)
    dsimp only
    split
    · exact fun _ _ _ => rfl
    · have h : Computes trees held
          (holding (keyOf s.host i r.range)
            (valuesAt s readers i (cellsToRead s.host i r.range hidden none))) _ :=
        holding_computes (valuesAt_computes hs (hreaders _) i _)
      rw [← entering_bind s answers held i r.range fun value =>
        (cellsToRead s.host i r.range hidden none).map fun cell => (value cell.1 cell.2).raw] at h
      exact h

end

/-- A reader gives the answers of the formulas without memory. -/
theorem readerAt_gives {trees : Trees} {texts : String → Prop} {s : Surroundings}
    (hs : Fits trees texts s) (n : Nat) (held : List String) (sheet : Nat) :
    (readerAt s n sheet).Gives trees held (answersAt s n held sheet) := by
  induction n generalizing held sheet with
  | zero =>
    exact ⟨readerAt_keeps hs.toAdmits 0 held sheet, fun _ _ _ _ => rfl, fun _ _ _ _ _ => rfl⟩
  | succ n ih =>
    refine ⟨readerAt_keeps hs.toAdmits (n + 1) held sheet, ?_, ?_⟩
    · exact readCell_computes hs (fun key => ih (key :: held)) sheet
    · exact readCells_computes hs (fun key => ih (key :: held)) sheet

/-! ## Settings -/

section

variable (registry : Registry) (h : Host) (settings settings' : Settings)

theorem outcome_settings (answers : Nat → Answers) (text : String) (o : Options) :
    Surroundings.outcome ⟨registry, settings, h⟩ answers text o =
      Surroundings.outcome ⟨registry, settings', h⟩ answers text o := by
  unfold Surroundings.outcome
  cases formulaBody? text with
  | none => rfl
  | some body => rfl

theorem value_settings (answers : Nat → Answers) (sheet row column : Nat) :
    Surroundings.value ⟨registry, settings, h⟩ answers sheet row column =
      Surroundings.value ⟨registry, settings', h⟩ answers sheet row column := by
  unfold Surroundings.value
  simp only [outcome_settings registry h settings settings']

theorem entering_settings (answers : List String → Nat → Answers) (held : List String) :
    entering ⟨registry, settings, h⟩ answers held =
      entering ⟨registry, settings', h⟩ answers held := by
  funext i r
  have hvalue (q : Nat → Answers) : Surroundings.value ⟨registry, settings, h⟩ q i =
      Surroundings.value ⟨registry, settings', h⟩ q i :=
    funext fun row => funext fun column =>
      value_settings registry h settings settings' q i row column
  unfold entering
  rw [hvalue]

/-- Without memory nothing depends on how an engine works. -/
theorem answersAt_settings (n : Nat) :
    answersAt ⟨registry, settings, h⟩ n = answersAt ⟨registry, settings', h⟩ n := by
  induction n with
  | zero => rfl
  | succ n ih =>
    funext held sheet
    simp only [answersAt, ih]
    rw [entering_settings registry h settings settings']

end

/-! ## Engines -/

/-- An engine that holds no key and keeps no other trees than it may. -/
structure RestsWith (trees : Trees) (e : Engine) : Prop where
  /-- No range is being read. -/
  held : e.memory.held = []
  /-- The trees that are kept may be kept. -/
  sound : e.memory.Sound trees

/-- The outcome of a text with the functions of an engine, whatever the engine remembers. -/
def outcome (registry : Registry) (h : Host) (text : String) (o : Options) : Except Error Value :=
  Surroundings.outcome ⟨registry, {}, h⟩ (answersAt ⟨registry, {}, h⟩ (keyBound h) []) text o

/-- The value of a cell with the functions of an engine, whatever the engine remembers. -/
def value (registry : Registry) (h : Host) (sheet row column : Nat) : Value :=
  Surroundings.value ⟨registry, {}, h⟩ (answersAt ⟨registry, {}, h⟩ (keyBound h) []) sheet row
    column

theorem outcome_surroundings (e : Engine) (h : Host) (text : String) (o : Options) :
    (e.surroundings h).outcome (answersAt (e.surroundings h) (keyBound h) []) text o =
      outcome e.registry h text o := by
  unfold outcome surroundings
  rw [answersAt_settings e.registry h e.settings {}, outcome_settings e.registry h e.settings {}]

theorem value_surroundings (e : Engine) (h : Host) (sheet row column : Nat) :
    (e.surroundings h).value (answersAt (e.surroundings h) (keyBound h) []) sheet row column =
      value e.registry h sheet row column := by
  unfold value surroundings
  rw [answersAt_settings e.registry h e.settings {}, value_settings e.registry h e.settings {}]

/-- A value of a cell as it is given, or as it is displayed. -/
def shown (h : Host) (sheet row column : Nat) (display : Bool) (v : Value) : Value :=
  if display then
    match h.format? sheet row column with
    | some format => .text (h.render v format)
    | none => .text v.asText
  else v

/-- The value of a cell is computed first and displayed afterwards. -/
theorem cellValue_eq (e : Engine) (h : Host) (sheet row column : Nat) (display : Bool) :
    e.cellValue h sheet row column display =
      (shown h sheet row column display
          (e.after (valueAt (e.surroundings h) (e.reader h) sheet row column e.memory)).1,
        (e.after (valueAt (e.surroundings h) (e.reader h) sheet row column e.memory)).2) := by
  unfold Engine.cellValue shown
  generalize e.after (valueAt (e.surroundings h) (e.reader h) sheet row column e.memory) = answer
  obtain ⟨v, e'⟩ := answer
  cases display with
  | false => rfl
  | true => cases h.format? sheet row column <;> rfl

theorem tryEvaluate_eq (e : Engine) (h : Host) (text : String) (o : Options) :
    e.tryEvaluate h text o =
      e.after (computeText (e.surroundings h) (e.reader h) text o e.memory) := rfl

theorem evaluate_eq (e : Engine) (h : Host) (text : String) (o : Options) :
    e.evaluate h text o =
      (orErrorText (e.tryEvaluate h text o).1, (e.tryEvaluate h text o).2) := by
  unfold Engine.evaluate
  generalize e.tryEvaluate h text o = answer
  rfl

theorem after_fst {α : Type} (e : Engine) (answer : α × Memory) : (e.after answer).1 = answer.1 :=
  rfl

section

variable {trees : Trees} {texts : String → Prop} {e : Engine} {h : Host}
  (hs : Fits trees texts (e.surroundings h))
include hs

/-- The readers of an engine answer from the values of cells, apart from the keys that are held. -/
theorem reader_gives (held : List String) (sheet : Nat) :
    (e.reader h sheet).Gives trees held
      (answersAt (e.surroundings h) (keyBound h) held sheet) :=
  readerAt_gives (s := e.surroundings h) hs (keyBound h) held sheet

variable (he : e.memory.Sound trees)
include he

theorem tryEvaluate_eq_of_sound {text : String} (htext : texts text) (o : Options) :
    (e.tryEvaluate h text o).1 =
      (e.surroundings h).outcome
        (answersAt (e.surroundings h) (keyBound h) e.memory.held) text o := by
  have hresult :=
    computeText_computes hs (reader_gives hs e.memory.held) htext o e.memory rfl he
  rw [tryEvaluate_eq, after_fst, hresult]

theorem cellValue_eq_of_sound (sheet row column : Nat) (display : Bool) :
    (e.cellValue h sheet row column display).1 =
      shown h sheet row column display
        ((e.surroundings h).value
          (answersAt (e.surroundings h) (keyBound h) e.memory.held) sheet row column) := by
  have hresult :=
    valueAt_computes hs (reader_gives hs e.memory.held) sheet row column e.memory rfl he
  rw [cellValue_eq, after_fst, hresult]

end

namespace RestsWith

variable {trees : Trees} {e : Engine} (he : e.RestsWith trees)
include he

theorem after {α : Type} {f : Memory → α × Memory} (hf : Keeps trees [] f) :
    (e.after (f e.memory)).2.RestsWith trees := by
  obtain ⟨hheld, hsound⟩ := hf e.memory he.held he.sound
  exact ⟨hheld, hsound⟩

section

variable {h : Host} (hs : Admits trees (e.surroundings h))
include hs

omit he in
theorem reader_keeps (sheet : Nat) : (e.reader h sheet).Keeps trees [] :=
  readerAt_keeps (s := e.surroundings h) hs (keyBound h) [] sheet

/-- An engine that has computed a text rests again, even if the outcome was an error. -/
theorem afterText (text : String) (o : Options) : (e.tryEvaluate h text o).2.RestsWith trees :=
  he.after (computeText_keeps hs (reader_keeps hs) text o)

theorem afterCell (sheet row column : Nat) (display : Bool) :
    (e.cellValue h sheet row column display).2.RestsWith trees := by
  rw [cellValue_eq]
  exact he.after (valueAt_keeps hs (reader_keeps hs) sheet row column)

end

section

variable {texts : String → Prop} {h : Host} (hs : Fits trees texts (e.surroundings h))
include hs

theorem tryEvaluate_eq_outcome {text : String} (htext : texts text) (o : Options) :
    (e.tryEvaluate h text o).1 = outcome e.registry h text o := by
  rw [tryEvaluate_eq_of_sound hs he.sound htext, he.held, outcome_surroundings]

theorem cellValue_eq_value (sheet row column : Nat) (display : Bool) :
    (e.cellValue h sheet row column display).1 =
      shown h sheet row column display (value e.registry h sheet row column) := by
  rw [cellValue_eq_of_sound hs he.sound, he.held, value_surroundings]

end

end RestsWith

end Spreadsheet.Engine
