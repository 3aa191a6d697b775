import Mathlib.Data.Set.Card
import Mathlib.Data.Fintype.EquivFin
import Mathlib.Data.Set.Finite.Range
import Mathlib.Tactic.Ring
import Spreadsheet.Engine.Reading

/-!
# Keys

A key names a sheet and a range: two keys are the same only if the names and the
ranges are (`keyOf_inj`).  For this a key is read from its end, where digits
follow a mark four times over.  A sheet name may hold any characters, also these
marks, but what comes after the last of them are digits alone.

Formulas that start on one sheet of a host come to no other sheets than those
that names stand for.  So there are only finitely many keys for them, and fewer
than `keyBound` (`Host.ncard_keysFrom_lt`).  In a workbook this is true of all
sheets together (`Workbook.ncard_keys_lt`).  How many keys are not held yet is
what the recursion of the readers goes down by (`Descends`).
-/

namespace Spreadsheet

open Spreadsheet.Grid (Range Workbook indexLimit)

namespace Engine

/-! ## Reading keys from the end -/

/-- The digits of a number hold no other characters. -/
theorem notMem_toDigits {c : Char} (hc : c.isDigit = false) (n : Nat) : c ∉ Nat.toDigits 10 n := by
  intro h
  have hdigit := Nat.isDigit_of_mem_toDigits (by decide) (by decide) h
  rw [hc] at hdigit
  cases hdigit

/-- A text that ends in digits behind a mark has one number there, and one text before the mark. -/
theorem append_digits_inj {x y : List Char} {c : Char} {m n : Nat} (hc : c.isDigit = false)
    (h : x ++ c :: Nat.toDigits 10 m = y ++ c :: Nat.toDigits 10 n) : x = y ∧ m = n := by
  have hsplit : x = y ∧ Nat.toDigits 10 m = Nat.toDigits 10 n := by
    have hm := notMem_toDigits hc m
    have hn := notMem_toDigits hc n
    generalize Nat.toDigits 10 m = ds at h hm
    generalize Nat.toDigits 10 n = es at h hn
    obtain ⟨before, hx, hrest⟩ | ⟨before, hy, hrest⟩ := List.append_eq_append_iff.1 h
    · cases before with
      | nil => exact ⟨by simpa using hx.symm, (List.cons.inj hrest).2⟩
      | cons d before =>
        obtain ⟨-, hrest⟩ := List.cons.inj hrest
        exact absurd (hrest ▸ List.mem_append_right before List.mem_cons_self) hm
    · cases before with
      | nil => exact ⟨by simpa using hy, (List.cons.inj hrest).2.symm⟩
      | cons d before =>
        obtain ⟨-, hrest⟩ := List.cons.inj hrest
        exact absurd (hrest ▸ List.mem_append_right before List.mem_cons_self) hn
  refine ⟨hsplit.1, ?_⟩
  calc
    m = Nat.ofDigitChars 10 (Nat.toDigits 10 m) 0 := Nat.ofDigitChars_ten_toDigits.symm
    _ = Nat.ofDigitChars 10 (Nat.toDigits 10 n) 0 := by rw [hsplit.2]
    _ = n := Nat.ofDigitChars_ten_toDigits

/-- The name that a sheet has in keys. -/
def keyName (h : Host) (sheet : Nat) : String := (h.sheetName? sheet).getD ""

theorem toList_keyOf (h : Host) (sheet : Nat) (r : Range) :
    (keyOf h sheet r).toList =
      ((((keyName h sheet).toList ++ ':' :: Nat.toDigits 10 r.top) ++ ',' :: Nat.toDigits 10 r.left)
        ++ '-' :: Nat.toDigits 10 r.bottom) ++ ',' :: Nat.toDigits 10 r.right := by
  simp [keyOf, keyName]

/-- A key names a sheet and a range. -/
theorem keyOf_inj {h h' : Host} {i j : Nat} {r t : Range} (heq : keyOf h i r = keyOf h' j t) :
    keyName h i = keyName h' j ∧ r = t := by
  have hlist := congrArg String.toList heq
  rw [toList_keyOf, toList_keyOf] at hlist
  obtain ⟨hlist, hright⟩ := append_digits_inj rfl hlist
  obtain ⟨hlist, hbottom⟩ := append_digits_inj rfl hlist
  obtain ⟨hlist, hleft⟩ := append_digits_inj rfl hlist
  obtain ⟨hlist, htop⟩ := append_digits_inj rfl hlist
  exact ⟨String.toList_inj.1 hlist, Range.ext htop hleft hbottom hright⟩

example : keyOf (⟨[⟨"A:0,0-0,0", 2, 3, [], [], []⟩], 0⟩ : Workbook).host 0
    { top := 0, left := 1, bottom := 1, right := 2 } = "A:0,0-0,0:0,1-1,2" := by decide +kernel

end Engine

/-! ## Counting ranges -/

namespace Grid.Range

/-- The bounds of a range. -/
def bounds (r : Range) : Fin indexLimit × Fin indexLimit × Fin indexLimit × Fin indexLimit :=
  (⟨r.top, r.top_le.trans_lt r.bottom_lt⟩, ⟨r.left, r.left_le.trans_lt r.right_lt⟩,
    ⟨r.bottom, r.bottom_lt⟩, ⟨r.right, r.right_lt⟩)

theorem bounds_injective : Function.Injective bounds := by
  intro r t h
  simp only [bounds, Prod.mk.injEq, Fin.mk.injEq] at h
  exact Range.ext h.1 h.2.1 h.2.2.1 h.2.2.2

instance : Finite Range := .of_injective bounds bounds_injective

/-- There are fewer ranges than bounds, since the last row of a range is not before its first. -/
theorem card_lt : Nat.card Range < Nat.pow indexLimit 4 := by
  have hone : 1 < indexLimit := by decide
  have hne : ¬ Function.Surjective bounds := by
    intro h
    obtain ⟨r, hr⟩ := h (⟨1, hone⟩, ⟨0, by omega⟩, ⟨0, by omega⟩, ⟨0, by omega⟩)
    simp only [bounds, Prod.mk.injEq, Fin.mk.injEq] at hr
    have := r.top_le
    omega
  have hfintype := Fintype.ofFinite Range
  have hcard := Fintype.card_lt_of_injective_not_surjective bounds bounds_injective hne
  simp only [Fintype.card_prod, Fintype.card_fin] at hcard
  rw [Nat.card_eq_fintype_card]
  calc
    Fintype.card Range < indexLimit * (indexLimit * (indexLimit * indexLimit)) := hcard
    _ = indexLimit ^ 4 := by ring

end Grid.Range

/-! ## Free keys -/

namespace Engine

/-- Holding one more key leaves fewer that are free. -/
theorem ncard_sdiff_cons_lt {keys : Set String} (hkeys : keys.Finite) {key : String}
    {held : List String} (hkey : key ∈ keys) (hfree : key ∉ held) :
    (keys \ {k | k ∈ key :: held}).ncard < (keys \ {k | k ∈ held}).ncard := by
  apply Set.ncard_lt_ncard _ hkeys.sdiff
  constructor
  · rintro k ⟨hk, hnot⟩
    exact ⟨hk, fun h => hnot (List.mem_cons_of_mem _ h)⟩
  · intro hsub
    exact (hsub ⟨hkey, hfree⟩).2 List.mem_cons_self

/-- From some sheets formulas come to no others, and on each of them holding one more key brings a
number down. -/
structure Descends (h : Host) (sheets : Set Nat) (free : List String → Nat) : Prop where
  /-- References lead to the same sheets. -/
  closed : ∀ {i j r}, i ∈ sheets → sheetOf h i r = .ok j → j ∈ sheets
  /-- The number goes down. -/
  lt : ∀ {i r held}, i ∈ sheets → keyOf h i r ∉ held → free (keyOf h i r :: held) < free held

end Engine

/-! ## The keys of a host -/

namespace Host

open Spreadsheet.Engine

variable (h : Host) (base : Nat)

/-- The sheets that formulas come to from one. -/
def sheetsFrom : Set Nat := {i | i = base ∨ i < h.sheetCount}

/-- The keys of ranges on these sheets. -/
def keysFrom : Set String := {key | ∃ i ∈ h.sheetsFrom base, ∃ r, key = keyOf h i r}

/-- A name stands for one of the sheets that are counted. -/
theorem sheetIndex?_lt {name : String} {i : Nat} (hi : h.sheetIndex? name = some i) :
    i < h.sheetCount :=
  List.mem_range.1 (List.mem_of_find?_eq_some hi)

theorem sheetOf_mem_sheetsFrom {i j : Nat} {r : Formula.Reference} (hi : i ∈ h.sheetsFrom base)
    (hj : sheetOf h i r = .ok j) : j ∈ h.sheetsFrom base := by
  unfold sheetOf at hj
  split at hj
  · cases hj
    exact hi
  · split at hj
    next k hk =>
      cases hj
      exact .inr (h.sheetIndex?_lt hk)
    next => cases hj

theorem keysFrom_subset_range : h.keysFrom base ⊆ Set.range fun p : Fin (h.sheetCount + 1) × Range =>
    keyOf h (if p.1 < h.sheetCount then p.1 else base) p.2 := by
  rintro key ⟨i, rfl | hi, r, rfl⟩
  · exact ⟨(⟨h.sheetCount, Nat.lt_succ_self _⟩, r), by simp⟩
  · exact ⟨(⟨i, Nat.lt_succ_of_lt hi⟩, r), by simp [hi]⟩

theorem finite_keysFrom : (h.keysFrom base).Finite :=
  (Set.finite_range _).subset (h.keysFrom_subset_range base)

/-- There are fewer keys than the readers of an engine count. -/
theorem ncard_keysFrom_lt : (h.keysFrom base).ncard < keyBound h :=
  calc
    (h.keysFrom base).ncard ≤ _ :=
      Set.ncard_le_ncard (h.keysFrom_subset_range base) (Set.finite_range _)
    _ ≤ (Set.univ : Set (Fin (h.sheetCount + 1) × Range)).ncard := by
      rw [← Set.image_univ]
      exact Set.ncard_image_le Set.finite_univ
    _ = (h.sheetCount + 1) * Nat.card Range := by
      rw [Set.ncard_univ, Nat.card_prod, Nat.card_fin]
    _ < (h.sheetCount + 1) * Nat.pow indexLimit 4 :=
      Nat.mul_lt_mul_of_pos_left Range.card_lt (Nat.succ_pos _)

/-- The number of keys that are not held. -/
noncomputable def freeKeysFrom (held : List String) : Nat :=
  (h.keysFrom base \ {key | key ∈ held}).ncard

theorem freeKeysFrom_lt_keyBound (held : List String) : h.freeKeysFrom base held < keyBound h :=
  (Set.ncard_le_ncard Set.sdiff_subset (h.finite_keysFrom base)).trans_lt (h.ncard_keysFrom_lt base)

theorem descends : Descends h (h.sheetsFrom base) (h.freeKeysFrom base) where
  closed := h.sheetOf_mem_sheetsFrom base
  lt {i r _} hi hfree := ncard_sdiff_cons_lt (h.finite_keysFrom base) ⟨i, hi, r, rfl⟩ hfree

end Host

/-! ## The keys of a workbook -/

namespace Grid.Workbook

open Spreadsheet.Engine

variable {b : Workbook}

/-- The keys that ranges on sheets of a workbook can have. -/
def keys (b : Workbook) : Set String := {key | ∃ i r, key = keyOf b.host i r}

theorem keyOf_mem (i : Nat) (r : Range) : keyOf b.host i r ∈ b.keys := ⟨i, r, rfl⟩

/-- All sheets that there are not have the same keys. -/
theorem keys_eq (b : Workbook) : b.keys = b.host.keysFrom b.sheets.length := by
  apply Set.Subset.antisymm
  · rintro key ⟨i, r, rfl⟩
    rcases Nat.lt_or_ge i b.sheets.length with hi | hi
    · exact ⟨i, .inr hi, r, rfl⟩
    · have hname : b.host.sheetName? i = b.host.sheetName? b.sheets.length := by
        simp [host, hi]
      exact ⟨b.sheets.length, .inl rfl, r, by simp only [keyOf, hname]⟩
  · rintro key ⟨i, -, r, rfl⟩
    exact keyOf_mem i r

theorem finite_keys (b : Workbook) : b.keys.Finite := by
  rw [keys_eq]
  exact b.host.finite_keysFrom _

/-- There are fewer keys than the readers of an engine count. -/
theorem ncard_keys_lt (b : Workbook) : b.keys.ncard < keyBound b.host := by
  rw [keys_eq]
  exact b.host.ncard_keysFrom_lt _

/-- The number of keys that are not held. -/
noncomputable def freeKeys (b : Workbook) (held : List String) : Nat :=
  (b.keys \ {key | key ∈ held}).ncard

theorem freeKeys_lt_keyBound (b : Workbook) (held : List String) :
    b.freeKeys held < keyBound b.host :=
  (Set.ncard_le_ncard Set.sdiff_subset b.finite_keys).trans_lt b.ncard_keys_lt

/-- Holding one more key leaves fewer that are free. -/
theorem freeKeys_cons_lt {key : String} {held : List String} (hkey : key ∈ b.keys)
    (hheld : held.contains key = false) : b.freeKeys (key :: held) < b.freeKeys held :=
  ncard_sdiff_cons_lt b.finite_keys hkey (by simpa using hheld)

theorem descends (b : Workbook) : Descends b.host Set.univ b.freeKeys where
  closed _ _ := Set.mem_univ _
  lt {i r held} _ hfree := freeKeys_cons_lt (keyOf_mem i r) (by simpa using hfree)

end Grid.Workbook

end Spreadsheet
