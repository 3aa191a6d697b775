import Mathlib.Data.Set.Finite.Basic
import Spreadsheet.Proofs.Engine.Accounts
import Spreadsheet.Proofs.Engine.Guards

/-!
# Held ranges

An engine holds keys, which are texts, and means ranges on sheets by them.  Sheet
names may hold any characters, also those that separate the parts of a key, but
a key tells the name and the range apart (`keyOf_eq_iff`).  So on sheets that no
two have the same name (`NamesApart`) holding keys is holding ranges.

The ranges that are held are followed through the calls on an engine: holding one
adds it, letting it go takes it away, and whatever is computed in between leaves
them alone (`Call.rangesAfter`).  What a call preserves is that the keys are those of
these ranges (`Holds.after`), and so a range is refused exactly when it is held
itself (`Holds.hold?_eq_none_iff`).
-/

namespace Spreadsheet.Engine

open Spreadsheet.Grid (Range Workbook)

variable {h : Host} {sheets : Set Nat} {ranges : Set (Nat × Range)}

/-! ## Sheets and their keys -/

/-- Two keys are the same when the sheets have the same name and the ranges are the same. -/
theorem keyOf_eq_iff {h' : Host} {i j : Nat} {name name' : String} {r t : Range}
    (hi : h.sheetName? i = some name) (hj : h'.sheetName? j = some name') :
    keyOf h i r = keyOf h' j t ↔ name = name' ∧ r = t := by
  constructor
  · intro hkeys
    obtain ⟨hnames, hranges⟩ := keyOf_inj hkeys
    rw [keyName, keyName, hi, hj] at hnames
    exact ⟨hnames, hranges⟩
  · rintro ⟨rfl, rfl⟩
    rw [keyOf, keyOf, hi, hj]

/-- Some sheets of a host exist, and no two of them have the same name. -/
structure NamesApart (h : Host) (sheets : Set Nat) : Prop where
  /-- Each of them has a name. -/
  exists_name : ∀ i ∈ sheets, ∃ name, h.sheetName? i = some name
  /-- The name is that of no other one. -/
  injOn : Set.InjOn h.sheetName? sheets

theorem NamesApart.keyOf_inj (hnames : NamesApart h sheets) {i j : Nat} (hi : i ∈ sheets)
    (hj : j ∈ sheets) {r t : Range} (hkeys : keyOf h i r = keyOf h j t) : (i, r) = (j, t) := by
  obtain ⟨name, hname⟩ := hnames.exists_name i hi
  obtain ⟨name', hname'⟩ := hnames.exists_name j hj
  obtain ⟨rfl, rfl⟩ := (keyOf_eq_iff hname hname').1 hkeys
  rw [hnames.injOn hi hj (hname.trans hname'.symm)]

/-! ## Holding ranges -/

/-- The keys that are held are those of some ranges, each of them once. -/
structure Holds (m : Memory) (h : Host) (ranges : Set (Nat × Range)) : Prop where
  /-- No key is held twice. -/
  nodup : m.held.Nodup
  /-- A key is held when one of the ranges has it. -/
  mem_iff : ∀ key, key ∈ m.held ↔ ∃ p ∈ ranges, keyOf h p.1 p.2 = key

namespace Holds

variable {m m' : Memory} {i : Nat} {r : Range}

theorem of_held_eq (hm : Holds m h ranges) (hheld : m'.held = m.held) : Holds m' h ranges :=
  ⟨hheld ▸ hm.nodup, fun key => hheld ▸ hm.mem_iff key⟩

section

variable (hm : Holds m h ranges) (hnames : NamesApart h sheets)
  (hranges : ∀ p ∈ ranges, p.1 ∈ sheets) (hi : i ∈ sheets)
include hm hnames hranges hi

/-- The key of a range is held when the range is. -/
theorem keyOf_mem_iff : keyOf h i r ∈ m.held ↔ (i, r) ∈ ranges := by
  rw [hm.mem_iff]
  constructor
  · rintro ⟨p, hp, hkey⟩
    have heq := hnames.keyOf_inj (hranges p hp) hi hkey
    exact heq ▸ hp
  · intro hp
    exact ⟨(i, r), hp, rfl⟩

theorem hold?_eq_none_iff : m.hold? (keyOf h i r) = none ↔ (i, r) ∈ ranges := by
  rw [← hm.keyOf_mem_iff hnames hranges hi, Option.eq_none_iff_forall_ne_some]
  constructor
  · intro hnone
    by_contra hfree
    exact hnone _ (Memory.hold?_eq_some.2 ⟨hfree, rfl⟩)
  · intro hheld m' hsome
    exact (Memory.hold?_eq_some.1 hsome).1 hheld

/-- A range that is let go leaves the others. -/
theorem release : Holds (m.release (keyOf h i r)) h (ranges \ {(i, r)}) := by
  refine ⟨hm.nodup.erase _, fun key => ?_⟩
  rw [Memory.release, hm.nodup.mem_erase_iff, hm.mem_iff]
  constructor
  · rintro ⟨hne, p, hp, rfl⟩
    refine ⟨p, ⟨hp, ?_⟩, rfl⟩
    rintro rfl
    exact hne rfl
  · rintro ⟨p, ⟨hp, hne⟩, rfl⟩
    exact ⟨fun hkey => hne (hnames.keyOf_inj (hranges p hp) hi hkey), p, hp, rfl⟩

end

/-- A range that is held from now on is added to the others. -/
theorem hold (hm : Holds m h ranges) (hhold : m.hold? (keyOf h i r) = some m') :
    Holds m' h (insert (i, r) ranges) := by
  obtain ⟨hfree, rfl⟩ := Memory.hold?_eq_some.1 hhold
  refine ⟨hm.nodup.cons hfree, fun key => ?_⟩
  rw [List.mem_cons, hm.mem_iff, Set.exists_mem_insert, eq_comm]

theorem new (settings : Settings) (h : Host) : Holds (Engine.new settings).memory h ∅ :=
  ⟨List.nodup_nil, fun key => by simp [Engine.new]⟩

end Holds

/-! ## Calls -/

/-- The ranges that are held after a call. -/
def Call.rangesAfter (ranges : Set (Nat × Range)) : Call → Set (Nat × Range)
  | .hold _ i r => insert (i, r) ranges
  | .release _ i r => ranges \ {(i, r)}
  | _ => ranges

/-- The ranges that a new engine holds after some calls. -/
def heldRanges (calls : List Call) : Set (Nat × Range) := calls.foldl Call.rangesAfter ∅

/-- A call holds ranges, and lets them go, on some sheets of a host only. -/
def Call.HoldsOn (h : Host) (sheets : Set Nat) : Call → Prop
  | .hold h' i _ | .release h' i _ => h' = h ∧ i ∈ sheets
  | _ => True

/-- Whether a call is one that holds a range or lets one go. -/
def Call.isGuard : Call → Bool
  | .hold .. | .release .. => true
  | _ => false

/-- The calls that compute something, and those that drop trees, hold the same keys afterwards. -/
theorem Call.held_after (e : Engine) {c : Call} (hc : c.isGuard = false) :
    (c.after e).memory.held = e.memory.held := by
  have hafter {α : Type} {f : Memory → α × Memory} (hf : Keeps anyTree e.memory.held f) :
      (f e.memory).2.held = e.memory.held :=
    (hf e.memory rfl (sound_anyTree _)).1
  cases c with
  | tryEvaluate h text o => exact held_tryEvaluate e h text o
  | evaluate h text o =>
    rw [Call.after, evaluate_eq]
    exact held_tryEvaluate e h text o
  | cellValue h sheet row column display =>
    rw [Call.after, cellValue_eq]
    exact hafter (valueAt_keeps (admits_anyTree (e.surroundings h)) (reader_keeps_anyTree e h _)
      sheet row column)
  | runProgram h sheet p => exact hafter (run_keeps (reader_keeps_anyTree e h _ sheet) p)
  | referenceValue h sheet r =>
    exact hafter (readCell_keeps (admits_anyTree (e.surroundings h))
      (fun key => reader_keeps_anyTree e h (key :: _)) sheet r)
  | rangeValues h sheet r includeHidden column =>
    exact hafter (readCells_keeps (admits_anyTree (e.surroundings h))
      (fun key => reader_keeps_anyTree e h (key :: _)) sheet r includeHidden column)
  | hold h sheet r => cases hc
  | release h sheet r => cases hc
  | clearCache => rfl
  | register f => rfl

section

variable (hnames : NamesApart h sheets)
include hnames

/-- The held keys stay those of the held ranges, whatever is called. -/
theorem Holds.after {e : Engine} (he : Holds e.memory h ranges)
    (hranges : ∀ p ∈ ranges, p.1 ∈ sheets) {c : Call} (hc : c.HoldsOn h sheets) :
    Holds (c.after e).memory h (c.rangesAfter ranges) ∧ ∀ p ∈ c.rangesAfter ranges, p.1 ∈ sheets := by
  cases c with
  | hold h' i r =>
    obtain ⟨rfl, hi⟩ := hc
    refine ⟨?_, Set.forall_mem_insert.2 ⟨hi, hranges⟩⟩
    simp only [Call.after, Engine.hold, Call.rangesAfter]
    cases hhold : e.memory.hold? (keyOf h' i r) with
    | none =>
      -- A range that is held already is refused, and the engine stays as it was.
      rw [Set.insert_eq_of_mem ((he.hold?_eq_none_iff hnames hranges hi).1 hhold)]
      exact he
    | some m => exact he.hold hhold
  | release h' i r =>
    obtain ⟨rfl, hi⟩ := hc
    exact ⟨he.release hnames hranges hi, fun p hp => hranges p hp.1⟩
  | _ => exact ⟨he.of_held_eq (Call.held_after e rfl), hranges⟩

theorem Holds.afterCalls {e : Engine} (he : Holds e.memory h ranges)
    (hranges : ∀ p ∈ ranges, p.1 ∈ sheets) {calls : List Call}
    (hcalls : ∀ c ∈ calls, c.HoldsOn h sheets) :
    Holds (e.afterCalls calls).memory h (calls.foldl Call.rangesAfter ranges) ∧
      ∀ p ∈ calls.foldl Call.rangesAfter ranges, p.1 ∈ sheets := by
  induction calls generalizing e ranges with
  | nil => exact ⟨he, hranges⟩
  | cons c calls ih =>
    obtain ⟨hc, hcalls⟩ := List.forall_mem_cons.1 hcalls
    obtain ⟨hafter, hranges'⟩ := he.after hnames hranges hc
    exact ih hafter hranges' hcalls

end

/-- Every finite set of ranges can be held. -/
theorem exists_heldRanges_eq (hfinite : ranges.Finite) (hranges : ∀ p ∈ ranges, p.1 ∈ sheets) :
    ∃ calls : List Call, (∀ c ∈ calls, c.HoldsOn h sheets) ∧ heldRanges calls = ranges := by
  induction ranges, hfinite using Set.Finite.induction_on with
  | empty => exact ⟨[], List.forall_mem_nil _, rfl⟩
  | @insert p ranges _ _ ih =>
    obtain ⟨hp, hranges⟩ := Set.forall_mem_insert.1 hranges
    obtain ⟨calls, hcalls, rfl⟩ := ih hranges
    refine ⟨calls ++ [.hold h p.1 p.2], ?_, by simp [heldRanges, Call.rangesAfter]⟩
    exact List.forall_mem_append.2 ⟨hcalls, List.forall_mem_singleton.2 ⟨rfl, hp⟩⟩

theorem hold_eq_error_iff {e : Engine} {i : Nat} {r : Range} :
    e.hold h i r = .error .circularReference ↔ e.memory.hold? (keyOf h i r) = none := by
  unfold Engine.hold
  cases e.memory.hold? (keyOf h i r) <;> simp

theorem hold_eq_ok_iff {e : Engine} {i : Nat} {r : Range} :
    (∃ e', e.hold h i r = .ok e') ↔ e.memory.hold? (keyOf h i r) ≠ none := by
  unfold Engine.hold
  cases e.memory.hold? (keyOf h i r) <;> simp

/-- Keys never collide.  Two of them are the same only if the names of the sheets and the ranges are,
whatever characters the names are made of.  So on sheets of a host that exist under names of their
own, a range is refused as circular exactly when this range on this sheet is held, and can be held
otherwise.  This is so after any calls, with any set of ranges on these sheets held. -/
theorem refused_iff_held :
    (∀ (h h' : Host) (i j : Nat) (name name' : String) (r t : Range),
      h.sheetName? i = some name → h'.sheetName? j = some name' →
        (keyOf h i r = keyOf h' j t ↔ name = name' ∧ r = t)) ∧
      ∀ (h : Host) (sheets : Set Nat), NamesApart h sheets →
        (∀ ranges : Set (Nat × Range), ranges.Finite → (∀ p ∈ ranges, p.1 ∈ sheets) →
          ∃ calls : List Call, (∀ c ∈ calls, c.HoldsOn h sheets) ∧ heldRanges calls = ranges) ∧
        ∀ (settings : Settings) (calls : List Call), (∀ c ∈ calls, c.HoldsOn h sheets) →
          ∀ i ∈ sheets, ∀ r : Range,
            (((new settings).afterCalls calls).hold h i r = .error .circularReference ↔
              (i, r) ∈ heldRanges calls) ∧
            ((∃ e, ((new settings).afterCalls calls).hold h i r = .ok e) ↔
              (i, r) ∉ heldRanges calls) := by
  refine ⟨fun _ _ _ _ _ _ _ _ hi hj => keyOf_eq_iff hi hj, fun h sheets hnames => ⟨?_, ?_⟩⟩
  · intro ranges hfinite hranges
    exact exists_heldRanges_eq hfinite hranges
  · intro settings calls hcalls i hi r
    obtain ⟨hholds, hranges⟩ :=
      (Holds.new settings h).afterCalls hnames (fun _ hp => absurd hp (Set.notMem_empty _)) hcalls
    have hrefused : ((new settings).afterCalls calls).memory.hold? (keyOf h i r) = none ↔
        (i, r) ∈ heldRanges calls := hholds.hold?_eq_none_iff hnames hranges hi
    exact ⟨hold_eq_error_iff.trans hrefused, hold_eq_ok_iff.trans hrefused.not⟩

/-- The name of a sheet is the key of a cell on another one.  Its own cell is held, while that of the
other sheet was held before and let go. -/
theorem refused_iff_held_colons :
    let b : Workbook := ⟨[⟨"A", 2, 2, [], [], []⟩, ⟨"A:0,0-0,0", 2, 2, [], [], []⟩], 0⟩
    let r : Range := { top := 0, left := 0, bottom := 0, right := 0 }
    let calls : List Call := [.hold b.host 0 r, .tryEvaluate b.host "=B1" {}, .hold b.host 1 r,
      .hold b.host 0 r, .release b.host 0 r]
    let e := (new {}).afterCalls calls
    keyOf b.host 0 r = "A:0,0-0,0" ∧ keyOf b.host 0 r ≠ keyOf b.host 1 r ∧
      e.hold b.host 1 r = .error .circularReference ∧ ∃ e', e.hold b.host 0 r = .ok e' := by
  intro b r calls e
  obtain ⟨hkeys, hholds⟩ := refused_iff_held
  have hnames : NamesApart b.host {0, 1} := by
    constructor
    · rintro i (rfl | rfl)
      · exact ⟨_, rfl⟩
      · exact ⟨_, rfl⟩
    · rintro i (rfl | rfl) j (rfl | rfl) heq
      · rfl
      · exact absurd heq (by decide)
      · exact absurd heq (by decide)
      · rfl
  have hcalls : ∀ c ∈ calls, c.HoldsOn b.host {0, 1} := by
    simp [calls, Call.HoldsOn]
  have hheld : heldRanges calls = {(1, r)} := by
    ext p
    simp only [heldRanges, calls, List.foldl_cons, List.foldl_nil, Call.rangesAfter,
      Set.mem_sdiff, Set.mem_insert_iff, Set.mem_empty_iff_false, Set.mem_singleton_iff]
    refine ⟨by tauto, ?_⟩
    rintro rfl
    exact ⟨.inr (.inl rfl), by decide⟩
  obtain ⟨-, hspec⟩ := hholds b.host {0, 1} hnames
  have hfirst := hspec {} calls hcalls 0 (.inl rfl) r
  have hsecond := hspec {} calls hcalls 1 (.inr rfl) r
  rw [hheld] at hfirst hsecond
  refine ⟨by decide, fun heq => ?_, hsecond.1.2 rfl, hfirst.2.2 (by decide)⟩
  obtain ⟨hname, -⟩ := (hkeys b.host b.host 0 1 _ _ r r rfl rfl).1 heq
  exact absurd hname (by decide)

end Spreadsheet.Engine
