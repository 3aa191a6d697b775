import Spreadsheet.Proofs.Engine.Guarded
import Spreadsheet.Proofs.Engine.Keys

/-!
# Recursion without a bound

Reading a cell computes formulas, and these read cells again.  As it stands this
is an equation for the readers of all sheets, `Unlimited`, in which nothing
bounds the depth.  The readers of the engine take a number that does, and it
makes no difference: with `keyBound` they solve the equation for any host
(`unlimited_readerAt`).  For a workbook the equation has no other solution
(`Unlimited.unique`).

Both rest on the same induction.  Two readers that may only differ further down
agree here, because every step further down holds one more key and there are only
so many (`Descends`).  A reading leaves the held keys as they were (`Agree`), so
the number of free keys is the same before each request of a formula.

The answers of the formulas without memory behave in the same way.  For them
`guarded` takes as many steps as there are free keys, so that no number is left
in its equation (`guarded_eq`).
-/

namespace Spreadsheet.Engine

open Spreadsheet.Evaluation
open Spreadsheet.Formula (Error Expr Reference)
open Spreadsheet.Grid (Range Workbook)

/-! ## Agreement of computations -/

section

variable {α : Type} {held : List String}

/-- Two computations are the same when certain keys are held, and they hold the same keys
afterwards. -/
def Agree (held : List String) (f f' : Memory → α × Memory) : Prop :=
  ∀ m : Memory, m.held = held → f m = f' m ∧ (f m).2.held = held

theorem Agree.const (a : α) : Agree held (fun m => (a, m)) (fun m => (a, m)) :=
  fun _ hm => ⟨rfl, hm⟩

/-- Two readers are the same when certain keys are held. -/
structure Reader.AgreesWith (held : List String) (r r' : Reader) : Prop where
  /-- They read the first cell of a reference in the same way. -/
  cell : ∀ ref, Agree held (r.cell ref) (r'.cell ref)
  /-- They read the cells of a reference in the same way. -/
  cells : ∀ ref hidden, Agree held (r.cells ref hidden) (r'.cells ref hidden)

theorem run_agree {r r' : Reader} (hr : r.AgreesWith held r') (p : Program α) :
    Agree held (run r p) (run r' p) := by
  induction p with
  | done a => exact .const _
  | fail e => exact .const _
  | readCell ref next ih =>
    intro m hm
    obtain ⟨heq, hheld⟩ := hr.cell ref m hm
    simp only [run, ← heq]
    generalize r.cell ref m = answer at hheld
    obtain ⟨e | v, m'⟩ := answer
    · exact ⟨rfl, hheld⟩
    · exact ih v m' hheld
  | readCells ref hidden next ih =>
    intro m hm
    obtain ⟨heq, hheld⟩ := hr.cells ref hidden m hm
    simp only [run, ← heq]
    generalize r.cells ref hidden m = answer at hheld
    obtain ⟨e | vs, m'⟩ := answer
    · exact ⟨rfl, hheld⟩
    · exact ih vs m' hheld

theorem holding_agree {key : String} {body body' : Memory → α × Memory}
    (h : held.contains key = false → Agree (key :: held) body body') :
    Agree held (holding key body) (holding key body') := by
  intro m hm
  unfold holding Memory.hold?
  rw [hm]
  cases hkey : held.contains key with
  | true => exact ⟨rfl, hm⟩
  | false =>
    obtain ⟨heq, hheld⟩ := h hkey { m with held := key :: held } rfl
    simp only [Bool.false_eq_true, if_false, ← heq]
    refine ⟨trivial, ?_⟩
    simp only [Memory.release, hheld, List.erase_cons_head]

end

/-! ## Texts and cells -/

section

variable {s : Surroundings} {held : List String}

theorem treeOf_agree {r r' : Reader} (hr : r.AgreesWith held r') (c : Context)
    (text body : String) : Agree held (treeOf s r c text body) (treeOf s r' c text body) := by
  intro m hm
  unfold treeOf
  cases if s.settings.cacheEnabled then m.cache.find? text else none with
  | some e => exact ⟨rfl, hm⟩
  | none =>
    obtain ⟨heq, hheld⟩ := run_agree hr (s.parse c body) { m with parsed := m.parsed + 1 } hm
    dsimp only
    rw [← heq]
    generalize run r (s.parse c body) { m with parsed := m.parsed + 1 } = answer at hheld
    obtain ⟨e | e, m'⟩ := answer
    · exact ⟨rfl, hheld⟩
    · dsimp only
      split
      · exact ⟨rfl, hheld⟩
      · exact ⟨rfl, hheld⟩

variable {readers readers' : Nat → Reader}

theorem computeText_agree (text : String) {o : Options}
    (hreader : (readers (o.sheet.getD s.host.selected)).AgreesWith held
      (readers' (o.sheet.getD s.host.selected))) :
    Agree held (computeText s readers text o) (computeText s readers' text o) := by
  intro m hm
  unfold computeText
  cases formulaBody? text with
  | none => exact ⟨rfl, hm⟩
  | some body =>
    dsimp only
    generalize o.sheet.getD s.host.selected = sheet at hreader
    obtain ⟨heq, hheld⟩ := treeOf_agree (s := s) hreader (s.context o) text body m hm
    rw [← heq]
    generalize treeOf s (readers sheet) (s.context o) text body m = answer at hheld
    obtain ⟨e | e, m'⟩ := answer
    · exact ⟨rfl, hheld⟩
    · obtain ⟨heq', hheld'⟩ := run_agree hreader (settled (s.context o) e) m' hheld
      dsimp only
      rw [← heq']
      exact ⟨rfl, hheld'⟩

variable {sheet : Nat} (hreader : (readers sheet).AgreesWith held (readers' sheet))
include hreader

theorem valueAt_agree (row column : Nat) :
    Agree held (valueAt s readers sheet row column) (valueAt s readers' sheet row column) := by
  intro m hm
  unfold valueAt
  cases s.host.content sheet row column with
  | formula text =>
    dsimp only
    obtain ⟨heq, hheld⟩ := computeText_agree (s := s) text
      (o := { sheet := some sheet, row := some row, column := some column }) hreader m hm
    rw [← heq]
    exact ⟨rfl, hheld⟩
  | _ => exact ⟨rfl, hm⟩

theorem valuesOnto_agree (cells : List (Nat × Nat)) (values : List Value) :
    Agree held (valuesOnto s readers sheet cells values)
      (valuesOnto s readers' sheet cells values) := by
  induction cells generalizing values with
  | nil => exact .const values
  | cons cell cells ih =>
    intro m hm
    obtain ⟨heq, hheld⟩ := valueAt_agree (s := s) hreader cell.1 cell.2 m hm
    simp only [valuesOnto, ← heq]
    exact ih _ _ hheld

theorem valuesAt_agree (cells : List (Nat × Nat)) :
    Agree held (valuesAt s readers sheet cells) (valuesAt s readers' sheet cells) := by
  intro m hm
  obtain ⟨heq, hheld⟩ := valuesOnto_agree (s := s) hreader cells [] m hm
  rw [valuesAt_eq, valuesAt_eq, ← heq]
  exact ⟨rfl, hheld⟩

end

/-! ## The equation of the readers -/

/-- The readers of all sheets read cells with the help of each other, to any depth. -/
def Unlimited (s : Surroundings) (readers : Nat → Reader) : Prop :=
  ∀ sheet, readers sheet =
    { cell := fun r m => readCell s readers sheet r m
      cells := fun r hidden m => readCells s readers sheet r hidden none m }

section

variable {s : Surroundings}

/-- On some sheets readers agree with the key of one more range held. -/
def AgreeBelow (h : Host) (sheets : Set Nat) (held : List String)
    (readers readers' : Nat → Reader) : Prop :=
  ∀ i ∈ sheets, ∀ r : Range, keyOf h i r ∉ held →
    (readers i).AgreesWith (keyOf h i r :: held) (readers' i)

section

variable {sheets : Set Nat} {held : List String} {readers readers' : Nat → Reader}
  (h : AgreeBelow s.host sheets held readers readers') {sheet : Nat}
  (hsheet : ∀ {i r}, sheetOf s.host sheet r = .ok i → i ∈ sheets)
include h hsheet

theorem readCell_agree (r : Reference) :
    Agree held (readCell s readers sheet r) (readCell s readers' sheet r) := by
  unfold readCell
  cases hi : sheetOf s.host sheet r with
  | error e => exact .const _
  | ok i =>
    exact holding_agree fun hfree => valueAt_agree (h i (hsheet hi) r.range (by simpa using hfree)) _ _

theorem readCells_agree (r : Reference) (hidden : Bool) (column : Option Nat) :
    Agree held (readCells s readers sheet r hidden column)
      (readCells s readers' sheet r hidden column) := by
  unfold readCells
  cases hi : sheetOf s.host sheet r with
  | error e => exact .const _
  | ok i =>
    dsimp only
    split
    · exact .const _
    · exact holding_agree fun hfree => valuesAt_agree (h i (hsheet hi) r.range (by simpa using hfree)) _

/-- Readers agree when those that they use agree below. -/
theorem agreesWith_of_below :
    Reader.AgreesWith held
      { cell := fun r m => readCell s readers sheet r m
        cells := fun r hidden m => readCells s readers sheet r hidden none m }
      { cell := fun r m => readCell s readers' sheet r m
        cells := fun r hidden m => readCells s readers' sheet r hidden none m } where
  cell r := readCell_agree h hsheet r
  cells r hidden := readCells_agree h hsheet r hidden none

end

section

variable {sheets : Set Nat} {free : List String → Nat} (hd : Descends s.host sheets free)
include hd

/-- Any two bounds above the number of free keys lead to the same readers. -/
theorem readerAt_agree {n n' : Nat} {held : List String} (hn : free held < n)
    (hn' : free held < n') {sheet : Nat} (hsheet : sheet ∈ sheets) :
    (readerAt s n sheet).AgreesWith held (readerAt s n' sheet) := by
  induction n generalizing n' held sheet with
  | zero => exact absurd hn (Nat.not_lt_zero _)
  | succ n ih =>
    cases n' with
    | zero => exact absurd hn' (Nat.not_lt_zero _)
    | succ n' =>
      refine agreesWith_of_below ?_ (hd.closed hsheet)
      intro i hi r hfree
      have hlt := hd.lt hi hfree
      exact ih (by omega) (by omega) hi

theorem Unlimited.agree {readers readers' : Nat → Reader} (h : Unlimited s readers)
    (h' : Unlimited s readers') (held : List String) {sheet : Nat} (hsheet : sheet ∈ sheets) :
    (readers sheet).AgreesWith held (readers' sheet) := by
  induction hfree : free held using Nat.strong_induction_on generalizing held sheet with
  | _ n ih =>
    rw [h sheet, h' sheet]
    refine agreesWith_of_below ?_ (hd.closed hsheet)
    intro i hi r hheld
    exact ih _ (hfree ▸ hd.lt hi hheld) (keyOf s.host i r :: held) hi rfl

end

/-- Readers that agree whatever is held are the same. -/
theorem Reader.eq_of_agreesWith {r r' : Reader} (h : ∀ held, r.AgreesWith held r') : r = r' := by
  have hcell : r.cell = r'.cell :=
    funext fun ref => funext fun m => ((h m.held).cell ref m rfl).1
  have hcells : r.cells = r'.cells :=
    funext fun ref => funext fun hidden => funext fun m => ((h m.held).cells ref hidden m rfl).1
  obtain ⟨cell, cells⟩ := r
  obtain ⟨cell', cells'⟩ := r'
  exact congrArg₂ Reader.mk hcell hcells

/-- Readers with a bound above the number of free keys solve the equation that does not bound
them. -/
theorem unlimited_of_free_lt {n : Nat} (hn : ∀ base held, s.host.freeKeysFrom base held < n) :
    Unlimited s (readerAt s n) := by
  intro sheet
  apply Reader.eq_of_agreesWith
  intro held
  have hagree : (readerAt s n sheet).AgreesWith held (readerAt s (n + 1) sheet) :=
    readerAt_agree (s.host.descends sheet) (hn sheet held)
      (Nat.lt_succ_of_lt (hn sheet held)) (.inl rfl)
  exact hagree

/-- The readers of an engine solve the equation, for any host. -/
theorem unlimited_readerAt (s : Surroundings) : Unlimited s (readerAt s (keyBound s.host)) :=
  unlimited_of_free_lt s.host.freeKeysFrom_lt_keyBound

variable {b : Workbook} (hs : s.host = b.host)
include hs

theorem keyOf_mem_keys (i : Nat) (r : Range) : keyOf s.host i r ∈ b.keys :=
  hs ▸ Workbook.keyOf_mem i r

theorem readerAt_unlimited : Unlimited s (readerAt s (keyBound b.host)) :=
  hs ▸ unlimited_readerAt s

/-- For a workbook the equation has one solution at most. -/
theorem Unlimited.unique {readers readers' : Nat → Reader} (h : Unlimited s readers)
    (h' : Unlimited s readers') : readers = readers' :=
  funext fun sheet => Reader.eq_of_agreesWith fun held =>
    h.agree (hs ▸ b.descends) h' held (Set.mem_univ sheet)

/-! ## Answers -/

/-- What entering a range gives depends on the answers while its key is held. -/
theorem entering_congr {held : List String} {answers answers' : List String → Nat → Answers}
    (h : ∀ key ∈ b.keys, held.contains key = false →
      answers (key :: held) = answers' (key :: held)) :
    entering s answers held = entering s answers' held := by
  funext i r
  unfold entering
  split
  next => rfl
  next hfree => rw [h _ (keyOf_mem_keys hs i r) (Bool.eq_false_of_not_eq_true hfree)]

/-- Any two bounds above the number of free keys lead to the same answers. -/
theorem answersAt_eq {n n' : Nat} {held : List String} (hn : b.freeKeys held < n)
    (hn' : b.freeKeys held < n') : answersAt s n held = answersAt s n' held := by
  induction n generalizing n' held with
  | zero => exact absurd hn (Nat.not_lt_zero _)
  | succ n ih =>
    cases n' with
    | zero => exact absurd hn' (Nat.not_lt_zero _)
    | succ n' =>
      have hentering : entering s (answersAt s n) held = entering s (answersAt s n') held := by
        apply entering_congr hs
        intro key hkey hfree
        have hlt := Workbook.freeKeys_cons_lt hkey hfree
        exact ih (by omega) (by omega)
      funext sheet
      simp only [answersAt, hentering]

end

/-- The answers for a formula on a sheet of a workbook when some keys are held. -/
noncomputable def guarded (s : Surroundings) (b : Workbook) (held : List String) :
    Nat → Answers :=
  answersAt s (b.freeKeys held + 1) held

section

variable {s : Surroundings} {b : Workbook} (hs : s.host = b.host)
include hs

theorem answersAt_eq_guarded {n : Nat} {held : List String} (hn : b.freeKeys held < n) :
    answersAt s n held = guarded s b held :=
  answersAt_eq hs hn (Nat.lt_succ_self _)

/-- An engine computes with these answers. -/
theorem answersAt_keyBound (held : List String) :
    answersAt s (keyBound b.host) held = guarded s b held :=
  answersAt_eq_guarded hs (Workbook.freeKeys_lt_keyBound b held)

/-- The answers while keys are held refer to those while one more is held. -/
theorem guarded_eq (held : List String) (sheet : Nat) :
    guarded s b held sheet = answering s.host (entering s (guarded s b) held) sheet := by
  have hbelow : entering s (answersAt s (b.freeKeys held)) held =
      entering s (guarded s b) held := by
    apply entering_congr hs
    intro key hkey hfree
    exact answersAt_eq_guarded hs (Workbook.freeKeys_cons_lt hkey hfree)
  rw [← hbelow]
  rfl

end

end Spreadsheet.Engine
