import Spreadsheet.Decimal.Sorting
import Spreadsheet.Proofs.Decimal.Order

/-!
# Positions in sorted lists

The order by which floats are sorted goes by their bits (`place`), and the
comparisons of numbers do not.  A number that is less comes first (`place_lt`), but
the two zeros are equal and have two places.  So what is found first in a sorted
list of a number is preceded just by the numbers that come before it
(`findIdx?_descending`, `findIdx?_ascending`), whichever of them it is equal to.
-/

namespace Spreadsheet.Decimal

open Float.Model UnpackedFloat

variable {s s' : Sign} {m m' : ℕ} {e e' : ℤ} {x y z : Float} {b : Binary} {xs : List Float}

/-! ## Places -/

theorem shapeOf_partsOf (s : Sign) (h : Canonical m e) :
    shapeOf (partsOf s m e) = .finite ⟨isNegative s, m, e⟩ := by
  obtain rfl | hm := Nat.eq_zero_or_pos m
  · rw [h.full.resolve_left (by decide)]
    rfl
  · rw [partsOf_pos s hm]
    rfl

/-- The place of a number without its sign: its exponent and the mantissa without its first bit, as
they are written. -/
def placeOf (m : ℕ) (e : ℤ) : ℤ := (e + 1074) * hiddenBit + m

/-- Among the negative numbers places go the other way. -/
def mirrored (negative : Bool) (p : ℤ) : ℤ := if negative then -1 - p else p

/-- The bits of a number are its sign and its place. -/
theorem place_of_finite (h : shape x = .finite b) :
    place x = mirrored b.negative (placeOf b.mantissa b.exponent) := by
  have hlt : x.toBits.toNat < 2 ^ 64 := x.toBits.toBitVec.isLt
  unfold shape Shape.ofBits at h
  unfold place mirrored placeOf
  generalize x.toBits.toNat = bits at h hlt
  unfold signBit hiddenBit at *
  dsimp only at h ⊢
  obtain hsign | hsign := lt_or_ge bits 9223372036854775808
  · rw [if_pos hsign]
    split at h
    next => split at h <;> cases h
    next =>
      split at h <;> cases h <;> rw [if_neg (by simpa using hsign)] <;> push_cast <;> omega
  · rw [if_neg (by omega)]
    split at h
    next => split at h <;> cases h
    next =>
      split at h <;> cases h <;> rw [if_pos (by simpa using hsign)] <;> push_cast <;> omega

theorem place_of_infinite {negative : Bool} (h : shape x = .infinite negative) :
    place x = mirrored negative (2047 * hiddenBit) := by
  have hlt : x.toBits.toNat < 2 ^ 64 := x.toBits.toBitVec.isLt
  unfold shape Shape.ofBits at h
  unfold place mirrored
  generalize x.toBits.toNat = bits at h hlt
  unfold signBit hiddenBit at *
  dsimp only at h ⊢
  split at h
  next =>
    split at h
    · cases h
      obtain hsign | hsign := lt_or_ge bits 9223372036854775808
      · rw [if_pos hsign, if_neg (by simpa using hsign)]
        omega
      · rw [if_neg (by omega), if_pos (by simpa using hsign)]
        omega
    · cases h
  next => split at h <;> cases h

theorem place_of_infinity (h : x.toModel.unpack = .infinity s) :
    place x = mirrored (isNegative s) (2047 * hiddenBit) :=
  place_of_infinite ((shape_eq x).trans (congrArg shapeOf h))

theorem place_of_parts (h : Canonical m e) (hparts : x.toModel.unpack = partsOf s m e) :
    place x = mirrored (isNegative s) (placeOf m e) :=
  place_of_finite ((shape_eq x).trans ((congrArg shapeOf hparts).trans (shapeOf_partsOf s h)))

/-- Numbers without signs are placed as they are compared, by exponents and then by mantissas. -/
theorem placeOf_lt (h : Canonical m e) (h' : Canonical m' e') (hlt : units m e < units m' e') :
    placeOf m e < placeOf m' e' := by
  have hcompare := compare_units h h'
  rw [compare_lt_iff_lt.2 (Int.ofNat_lt.2 hlt), Ordering.then_eq_lt, compare_lt_iff_lt,
    compare_eq_iff_eq, compare_lt_iff_lt] at hcompare
  have hm := h.lt
  have he := h.le
  unfold placeOf hiddenBit
  obtain hexponent | ⟨rfl, hmantissa⟩ := hcompare
  · have hfull := h'.full.resolve_right (by omega)
    push_cast
    omega
  · push_cast
    omega

/-- Finite numbers are placed between the infinite ones. -/
theorem placeOf_bounds (h : Canonical m e) (he : e ≤ 971) :
    0 ≤ placeOf m e ∧ placeOf m e < 2047 * hiddenBit := by
  have hm := h.lt
  have hle := h.le
  unfold placeOf hiddenBit
  constructor
  · push_cast
    omega
  · push_cast
    omega

/-- What is less than a number is sorted before it. -/
theorem place_lt (hx : x.isNaN = false) (hy : y.isNaN = false) (h : x < y) : place x < place y := by
  rw [lt_iff_height hx hy] at h
  obtain ⟨s, hs⟩ | ⟨s, m, e, hm, he, hs⟩ := exists_parts hx <;>
    obtain ⟨s', hs'⟩ | ⟨s', m', e', hm', he', hs'⟩ := exists_parts hy
  · rw [place_of_infinity hs, place_of_infinity hs']
    rw [hs, hs'] at h
    cases s <;> cases s' <;> first | decide | cases h
  · have hbounds := placeOf_bounds hm' he'
    rw [place_of_infinity hs, place_of_parts hm' hs']
    rw [hs, hs', height_partsOf, compare_infinity_finite] at h
    cases s with
    | positive => cases h
    | negative =>
      cases s'
      · change -1 - _ < -1 - _
        omega
      · change -1 - _ < placeOf m' e'
        omega
  · have hbounds := placeOf_bounds hm he
    rw [place_of_infinity hs', place_of_parts hm hs]
    rw [hs, hs', height_partsOf, compare_finite_infinity] at h
    cases s' with
    | negative => cases h
    | positive =>
      cases s
      · change -1 - placeOf m e < 2047 * _
        omega
      · exact hbounds.2
  · have hbounds := placeOf_bounds hm he
    have hbounds' := placeOf_bounds hm' he'
    rw [place_of_parts hm hs, place_of_parts hm' hs']
    rw [hs, hs', height_partsOf, height_partsOf, compare_finite, compare_lt_iff_lt] at h
    cases s <;> cases s'
    · change -(units m e : ℤ) < -(units m' e' : ℤ) at h
      have hlt := placeOf_lt hm' hm (by omega)
      change -1 - placeOf m e < -1 - placeOf m' e'
      omega
    · change -1 - placeOf m e < placeOf m' e'
      omega
    · change (units m e : ℤ) < -(units m' e' : ℤ) at h
      omega
    · change (units m e : ℤ) < (units m' e' : ℤ) at h
      exact placeOf_lt hm hm' (by omega)

/-! ## Positions -/

/-- Where the entries that come before a number stand first, and then those that are equal to it, the
number is found behind just those before it. -/
theorem findIdx?_eq_countP {before equal : Float → Bool}
    (hnot : ∀ y ∈ xs, equal y = true → before y = false)
    (hsorted : xs.Pairwise fun y z => (before z = true → before y = true) ∧
      (equal z = true → equal y = true ∨ before y = true)) :
    xs.findIdx? equal = if xs.any equal then some (xs.countP before) else none := by
  induction xs with
  | nil => rfl
  | cons y xs ih =>
    obtain ⟨hy, hxs⟩ := List.pairwise_cons.1 hsorted
    obtain ⟨hnot_y, hnot_xs⟩ := List.forall_mem_cons.1 hnot
    rw [List.findIdx?_cons, ih hnot_xs hxs, List.any_cons]
    cases hequal : equal y with
    | true =>
      have hcount : (y :: xs).countP before = 0 := by
        rw [List.countP_eq_zero]
        refine List.forall_mem_cons.2 ⟨Bool.eq_false_iff.1 (hnot_y hequal), fun z hz hbefore => ?_⟩
        rw [hnot_y hequal] at hy
        exact Bool.false_ne_true ((hy z hz).1 hbefore)
      rw [hcount]
      rfl
    | false =>
      rw [Bool.false_or]
      cases hany : xs.any equal with
      | false => rfl
      | true =>
        obtain ⟨z, hz, hequal_z⟩ := List.any_eq_true.1 hany
        have hbefore : before y = true :=
          ((hy z hz).2 hequal_z).resolve_left (by rw [hequal]; exact Bool.false_ne_true)
        rw [List.countP_cons_of_pos hbefore]
        rfl

theorem ascending_sorted (xs : List Float) :
    (ascending xs).Pairwise fun y z => place y ≤ place z := by
  refine (List.pairwise_mergeSort ?_ ?_ xs).imp of_decide_eq_true
  · intro a b c hab hbc
    exact decide_eq_true ((of_decide_eq_true hab).trans (of_decide_eq_true hbc))
  · intro a b
    rw [Bool.or_eq_true, decide_eq_true_eq, decide_eq_true_eq]
    exact le_total _ _

theorem descending_sorted (xs : List Float) :
    (descending xs).Pairwise fun y z => place z ≤ place y := by
  refine (List.pairwise_mergeSort ?_ ?_ xs).imp of_decide_eq_true
  · intro a b c hab hbc
    exact decide_eq_true ((of_decide_eq_true hbc).trans (of_decide_eq_true hab))
  · intro a b
    rw [Bool.or_eq_true, decide_eq_true_eq, decide_eq_true_eq]
    exact le_total _ _

theorem not_lt_of_place_le (hx : x.isNaN = false) (hy : y.isNaN = false)
    (h : place y ≤ place x) : ¬ x < y :=
  fun hlt => absurd (place_lt hx hy hlt) (not_lt.2 h)

section

variable (hx : x.isNaN = false) (hxs : ∀ y ∈ xs, y.isNaN = false)
include hx hxs

/-- From the greatest number down a number is found behind those that are greater. -/
theorem findIdx?_descending : (descending xs).findIdx? (· == x) =
    if xs.any (· == x) then some (xs.countP (x < ·)) else none := by
  have hperm : (descending xs).Perm xs := List.mergeSort_perm _ _
  have hdefined : ∀ y ∈ descending xs, y.isNaN = false := fun y hy => hxs y (hperm.mem_iff.1 hy)
  rw [← hperm.any_eq, ← hperm.countP_eq]
  apply findIdx?_eq_countP
  · intro y hy hequal
    exact decide_eq_false (not_lt_of_beq (hdefined y hy) hx hequal).2
  · refine (descending_sorted xs).imp_of_mem fun {y z} hy hz hplace => ?_
    have hyz := not_lt_of_place_le (hdefined y hy) (hdefined z hz) hplace
    simp only [decide_eq_true_eq]
    constructor
    · intro hxz
      by_contra hxy
      exact hyz (lt_of_not_lt_of_lt hx (hdefined y hy) (hdefined z hz) hxy hxz)
    · intro hequal
      obtain hlt | heq | hgt := lt_or_beq_or_gt (hdefined y hy) hx
      · exact absurd (((lt_iff_of_beq (hdefined z hz) hx (hdefined y hy) hequal).2).2 hlt) hyz
      · exact .inl heq
      · exact .inr hgt

/-- From the least number up a number is found behind those that are less. -/
theorem findIdx?_ascending : (ascending xs).findIdx? (· == x) =
    if xs.any (· == x) then some (xs.countP (· < x)) else none := by
  have hperm : (ascending xs).Perm xs := List.mergeSort_perm _ _
  have hdefined : ∀ y ∈ ascending xs, y.isNaN = false := fun y hy => hxs y (hperm.mem_iff.1 hy)
  rw [← hperm.any_eq, ← hperm.countP_eq]
  apply findIdx?_eq_countP
  · intro y hy hequal
    exact decide_eq_false (not_lt_of_beq (hdefined y hy) hx hequal).1
  · refine (ascending_sorted xs).imp_of_mem fun {y z} hy hz hplace => ?_
    have hzy := not_lt_of_place_le (hdefined z hz) (hdefined y hy) hplace
    simp only [decide_eq_true_eq]
    constructor
    · intro hzx
      by_contra hyx
      exact hzy (lt_of_lt_of_not_lt (hdefined z hz) (hdefined y hy) hx hzx hyx)
    · intro hequal
      obtain hlt | heq | hgt := lt_or_beq_or_gt (hdefined y hy) hx
      · exact .inr hlt
      · exact .inl heq
      · exact absurd (((lt_iff_of_beq (hdefined z hz) hx (hdefined y hy) hequal).1).2 hgt) hzy

end

end Spreadsheet.Decimal
