import Mathlib
import Spreadsheet.Value.Lookup

/-!
# Sorted searches

A sorted search is meant to find the last key that is not blank and has not
passed the value that is looked up (`lastIdx?`).  It reads the keys up to
the first that has passed the value, and only then leaves the blank ones out.

So it is right when, behind a key that has passed the value, every key has
passed it or is blank (`SortedFor`).  Keys that are sorted apart from the blank
ones need not be like that.  A blank key counts as zero beside numbers, and when
zero has passed the value the search stops there.  It then misses all keys
behind it, so the condition is exact (`sortedPosition?_eq_iff`).
-/

namespace Spreadsheet.Value

/-! ## Last positions -/

section

variable {α : Type} {p q : α → Bool} {xs ys : List α} {x : α} {i : Nat}

/-- The position of the last entry of a list that satisfies a condition. -/
def lastIdx? (p : α → Bool) (xs : List α) : Option Nat :=
  ((xs.zipIdx.filter fun (x, _) => p x).map (·.2)).getLast?

theorem lastIdx?_nil (p : α → Bool) : lastIdx? p [] = none := rfl

theorem lastIdx?_concat (p : α → Bool) (xs : List α) (x : α) :
    lastIdx? p (xs ++ [x]) = if p x then some xs.length else lastIdx? p xs := by
  unfold lastIdx?
  rw [List.zipIdx_append, List.filter_append, List.map_append]
  cases hx : p x <;> simp [hx]

example : lastIdx? (· < 3) [1, 5, 2, 4] = some 2 := by decide +kernel

theorem lastIdx?_eq_some_iff :
    lastIdx? p xs = some i ↔
      (∃ x, xs[i]? = some x ∧ p x = true) ∧ ∀ j y, i < j → xs[j]? = some y → p y = false := by
  induction xs using List.reverseRecOn with
  | nil => simp [lastIdx?_nil]
  | append_singleton xs x ih =>
    have hlast : (xs ++ [x])[xs.length]? = some x := List.getElem?_concat_length
    have hle {j : Nat} {y : α} (hy : (xs ++ [x])[j]? = some y) : j ≤ xs.length := by
      have := (List.getElem?_eq_some_iff.1 hy).1
      rw [List.length_append, List.length_singleton] at this
      omega
    have hbefore {j : Nat} (hj : j < xs.length) : (xs ++ [x])[j]? = xs[j]? :=
      List.getElem?_append_left hj
    rw [lastIdx?_concat]
    cases hx : p x with
    | true =>
      rw [if_pos rfl, Option.some_inj]
      constructor
      · rintro rfl
        exact ⟨⟨x, hlast, hx⟩, fun j y hj hy => absurd (hle hy) (by omega)⟩
      · rintro ⟨⟨y, hy, -⟩, hafter⟩
        by_contra hne
        have hfalse := hafter xs.length x (by have := hle hy; omega) hlast
        cases hx.symm.trans hfalse
    | false =>
      rw [if_neg Bool.false_ne_true, ih]
      constructor
      · rintro ⟨⟨y, hy, hpy⟩, hafter⟩
        have hi := (List.getElem?_eq_some_iff.1 hy).1
        refine ⟨⟨y, (hbefore hi).trans hy, hpy⟩, fun j z hj hz => ?_⟩
        obtain hlt | rfl := Nat.lt_or_eq_of_le (hle hz)
        · exact hafter j z hj ((hbefore hlt).symm.trans hz)
        · obtain rfl := Option.some_inj.1 (hlast.symm.trans hz)
          exact hx
      · rintro ⟨⟨y, hy, hpy⟩, hafter⟩
        have hi : i < xs.length := by
          obtain hlt | rfl := Nat.lt_or_eq_of_le (hle hy)
          · exact hlt
          · obtain rfl := Option.some_inj.1 (hlast.symm.trans hy)
            cases hx.symm.trans hpy
        refine ⟨⟨y, (hbefore hi).symm.trans hy, hpy⟩, fun j z hj hz => ?_⟩
        exact hafter j z hj ((hbefore (List.getElem?_eq_some_iff.1 hz).1).trans hz)

theorem lastIdx?_eq_none_iff : lastIdx? p xs = none ↔ ∀ x ∈ xs, p x = false := by
  induction xs using List.reverseRecOn with
  | nil => simp [lastIdx?_nil]
  | append_singleton xs x ih =>
    rw [lastIdx?_concat]
    cases hx : p x <;> simp [hx, ih, or_imp, forall_and]

theorem lastIdx?_append_of_forall_not (h : ∀ y ∈ ys, p y = false) :
    lastIdx? p (xs ++ ys) = lastIdx? p xs := by
  induction ys using List.reverseRecOn with
  | nil => rw [List.append_nil]
  | append_singleton ys y ih =>
    rw [← List.append_assoc, lastIdx?_concat, if_neg (by simp [h y (by simp)])]
    exact ih fun z hz => h z (by simp [hz])

theorem lastIdx?_congr (h : ∀ x ∈ xs, p x = q x) : lastIdx? p xs = lastIdx? q xs := by
  induction xs using List.reverseRecOn with
  | nil => rfl
  | append_singleton xs x ih =>
    rw [lastIdx?_concat, lastIdx?_concat, h x (by simp), ih fun y hy => h y (by simp [hy])]

end

/-! ## Keys -/

variable {sought : Value} {past : Ordering} {keys : List Value}

/-- Whether a key that is not blank has not passed a value. -/
def fits (sought : Value) (past : Ordering) (key : Value) : Bool :=
  !key.isBlank && order key sought != past

/-- Behind a key that has passed a value every key has passed it or is blank. -/
def SortedFor (sought : Value) (past : Ordering) (keys : List Value) : Prop :=
  keys.Pairwise fun k l => order k sought = past → fits sought past l = false

/-- Behind the keys that a sorted search reads none fits. -/
theorem fits_of_mem_dropWhile (h : SortedFor sought past keys) {l : Value}
    (hl : l ∈ keys.dropWhile fun k => order k sought != past) : fits sought past l = false := by
  generalize hrest : keys.dropWhile (fun k => order k sought != past) = rest at hl
  cases rest with
  | nil => cases hl
  | cons k rest =>
    have hk : order k sought = past := by
      have := List.head?_dropWhile_not (fun k => order k sought != past) keys
      rw [hrest] at this
      simpa using this
    have hpairwise : (k :: rest).Pairwise fun k l => order k sought = past →
        fits sought past l = false := by
      rw [← hrest]
      exact List.Pairwise.sublist (List.dropWhile_sublist _) h
    obtain rfl | hl := List.mem_cons.1 hl
    · simp [fits, hk]
    · exact (List.pairwise_cons.1 hpairwise).1 l hl hk

theorem sortedPosition?_eq_takeWhile :
    sortedPosition? sought past keys =
      lastIdx? (fits sought past) (keys.takeWhile fun k => order k sought != past) := by
  unfold sortedPosition?
  dsimp only
  apply lastIdx?_congr (p := fun k : Value => !k.isBlank)
  intro k hk
  have hpast := List.mem_takeWhile_imp hk
  rw [fits, hpast, Bool.and_true]

/-- A sorted search finds the last key that fits just when no such key stands behind one that has
passed the value. -/
theorem sortedPosition?_eq_iff :
    sortedPosition? sought past keys = lastIdx? (fits sought past) keys ↔
      SortedFor sought past keys := by
  rw [sortedPosition?_eq_takeWhile]
  have hsplit := List.takeWhile_append_dropWhile (p := fun k => order k sought != past) (l := keys)
  constructor
  · intro heq
    rw [SortedFor, List.pairwise_iff_getElem]
    intro i j hi hj hij hpast
    by_contra hfits
    rw [Bool.not_eq_false] at hfits
    -- The last key that fits is read, so the key that has passed the value before it is read too.
    obtain ⟨m, hm⟩ : ∃ m, lastIdx? (fits sought past) keys = some m := by
      rw [← Option.ne_none_iff_exists', ne_eq, lastIdx?_eq_none_iff]
      exact fun h => Bool.false_ne_true ((h _ (List.getElem_mem hj)).symm.trans hfits)
    have hjm : j ≤ m := by
      by_contra hlt
      have hfalse := (lastIdx?_eq_some_iff.1 hm).2 j _ (by omega) (List.getElem?_eq_getElem hj)
      cases hfalse.symm.trans hfits
    obtain ⟨⟨k, hk, -⟩, -⟩ := lastIdx?_eq_some_iff.1 (heq.trans hm)
    have hread := (List.getElem?_eq_some_iff.1 hk).1
    have hmem : keys[i] ∈ keys.takeWhile fun k => order k sought != past := by
      rw [List.mem_iff_getElem?]
      refine ⟨i, ?_⟩
      rw [← List.getElem?_eq_getElem hi]
      conv_rhs => rw [← hsplit]
      rw [List.getElem?_append_left (by omega)]
    have hne := List.mem_takeWhile_imp hmem
    simp [hpast] at hne
  · intro h
    conv_rhs => rw [← hsplit]
    exact (lastIdx?_append_of_forall_not fun l hl => fits_of_mem_dropWhile h hl).symm

/-- Keys are sorted for a search when they are so without the blank ones and no blank key that has
passed the value stands before one that fits. -/
theorem sortedFor_of_filter
    (hsorted : (keys.filter fun k => !k.isBlank).Pairwise fun k l =>
      order k sought = past → order l sought = past)
    (hblank : keys.Pairwise fun k l => k.isBlank = true → order k sought = past →
      fits sought past l = false) : SortedFor sought past keys := by
  rw [List.pairwise_filter] at hsorted
  apply (hsorted.and hblank).imp
  rintro k l ⟨hsorted, hblank⟩ hpast
  cases hk : k.isBlank with
  | true => exact hblank hk hpast
  | false =>
    cases hl : l.isBlank with
    | true => simp [fits, hl]
    | false => simp [fits, hsorted (by simp [hk]) (by simp [hl]) hpast]

/-! ## Formats -/

@[simp] theorem raw_raw (v : Value) : v.raw.raw = v.raw := by
  fun_induction raw v with
  | case1 v format ih => exact ih
  | case2 v h => cases v <;> first | rfl | exact absurd rfl (h _ _)

@[simp] theorem asText_raw (v : Value) : v.raw.asText = v.asText := by
  fun_induction raw v with
  | case1 v format ih => rw [ih, asText]
  | case2 v h => rfl

@[simp] theorem toNumber_raw (v : Value) : v.raw.toNumber = v.toNumber := by
  rw [toNumber, raw_raw, ← toNumber]

@[simp] theorem order_raw (k v : Value) : order k v.raw = order k v := by
  simp only [order, toNumber_raw, asText_raw]

theorem sortedPosition?_raw (sought : Value) (past : Ordering) (keys : List Value) :
    sortedPosition? sought.raw past keys = sortedPosition? sought past keys := by
  simp only [sortedPosition?, order_raw]

end Spreadsheet.Value
