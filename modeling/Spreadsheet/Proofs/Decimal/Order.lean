import Spreadsheet.Proofs.Decimal.Products
import Spreadsheet.Proofs.Decimal.WholePart

/-!
# The order of floats

A float other than NaN is infinite, or it has the parts of a finite one
(`exists_parts`).  Its height is then a whole number of units, of which the least
positive float is one.  The comparison of two floats looks at signs, exponents and
mantissas, and it comes to the order of their heights (`compare_unpack`).  So the
floats other than NaN are ordered like their heights, where the two zeros are at
the same one (`lt_iff_height`, `beq_iff_height`).
-/

namespace Spreadsheet.Decimal

open Float.Model UnpackedFloat

variable {s s' : Sign} {m m' : ℕ} {e e' : ℤ} {x y z : Float}

/-! ## Parts -/

/-- A float other than NaN is infinite, or it has the parts of a finite one. -/
theorem exists_parts (hx : x.isNaN = false) :
    (∃ s, x.toModel.unpack = .infinity s) ∨
      ∃ s m e, Canonical m e ∧ e ≤ 971 ∧ x.toModel.unpack = partsOf s m e := by
  cases hfinite : x.isFinite with
  | true => exact .inr (exists_partsOf x.toModel.toBits.toBitVec hfinite)
  | false =>
    left
    have hdefined := unpack_ne_notANumber hx
    change x.toModel.unpack.isFinite = false at hfinite
    generalize x.toModel.unpack = u at hdefined hfinite
    cases u with
    | notANumber => exact absurd rfl hdefined
    | infinity s => exact ⟨s, rfl⟩
    | zero s => cases hfinite
    | finite s m e hm => cases hfinite

theorem partsOf_zero (s : Sign) (e : ℤ) : partsOf s 0 e = .zero s := rfl

theorem partsOf_pos (s : Sign) (hm : 0 < m) (e : ℤ) : partsOf s m e = .finite s m e hm :=
  dif_neg hm.ne'

/-! ## Units -/

/-- A number in units of the least positive one. -/
def units (m : ℕ) (e : ℤ) : ℕ := m * 2 ^ (e + 1074).toNat

theorem units_zero (e : ℤ) : units 0 e = 0 := Nat.zero_mul _

theorem units_pos (hm : 0 < m) (e : ℤ) : 0 < units m e := Nat.mul_pos hm (Nat.two_pow_pos _)

/-- A float with a greater exponent is greater, since it has all bits of its mantissa. -/
theorem units_lt_of_lt (h : Canonical m e) (h' : Canonical m' e') (hlt : e < e') :
    units m e < units m' e' := by
  have hle := h.le
  have hfull := h'.full.resolve_right (by omega)
  calc
    units m e < 2 ^ 53 * 2 ^ (e + 1074).toNat :=
      Nat.mul_lt_mul_of_pos_right h.lt (Nat.two_pow_pos _)
    _ = 2 ^ 52 * 2 ^ ((e + 1074).toNat + 1) := by ring
    _ ≤ units m' e' := Nat.mul_le_mul hfull (Nat.pow_le_pow_right Nat.two_pos (by omega))

/-- Exponents and then mantissas tell which number is greater. -/
theorem compare_units (h : Canonical m e) (h' : Canonical m' e') :
    (compare e e').then (compare m m') = compare (units m e : ℤ) (units m' e') := by
  obtain hlt | rfl | hgt := lt_trichotomy e e'
  · rw [compare_lt_iff_lt.2 hlt, compare_lt_iff_lt.2 (Int.ofNat_lt.2 (units_lt_of_lt h h' hlt))]
    rfl
  · have hpos : 0 < 2 ^ (e + 1074).toNat := Nat.two_pow_pos _
    rw [compare_eq_iff_eq.2 rfl, Ordering.eq_then, units, units]
    obtain hlt | rfl | hgt := lt_trichotomy m m'
    · rw [compare_lt_iff_lt.2 hlt,
        compare_lt_iff_lt.2 (Int.ofNat_lt.2 (Nat.mul_lt_mul_of_pos_right hlt hpos))]
    · rw [compare_eq_iff_eq.2 rfl, compare_eq_iff_eq.2 rfl]
    · rw [compare_gt_iff_gt.2 hgt,
        compare_gt_iff_gt.2 (Int.ofNat_lt.2 (Nat.mul_lt_mul_of_pos_right hgt hpos))]
  · rw [compare_gt_iff_gt.2 hgt, compare_gt_iff_gt.2 (Int.ofNat_lt.2 (units_lt_of_lt h' h hgt))]
    rfl

theorem compare_neg (a b : ℤ) : compare (-a) (-b) = (compare a b).swap := by
  obtain hlt | rfl | hgt := lt_trichotomy a b
  · rw [compare_lt_iff_lt.2 hlt, compare_gt_iff_gt.2 (neg_lt_neg hlt)]
    rfl
  · rw [compare_eq_iff_eq.2 rfl, compare_eq_iff_eq.2 rfl]
    rfl
  · rw [compare_gt_iff_gt.2 hgt, compare_lt_iff_lt.2 (neg_lt_neg hgt)]
    rfl

theorem apply_zero (s : Sign) : s.apply 0 = 0 := by cases s <;> rfl

/-- The sign of a number other than zero says on which side of zero it lies. -/
theorem compare_apply_units (s : Sign) (hm : 0 < m) (e : ℤ) :
    compare (s.apply (units m e)) 0 = sideOf s := by
  have hpos : (0 : ℤ) < units m e := Int.natCast_pos.2 (units_pos hm e)
  cases s with
  | negative => exact compare_lt_iff_lt.2 (neg_neg_of_pos hpos)
  | positive => exact compare_gt_iff_gt.2 hpos

/-! ## Heights -/

theorem height_partsOf (s : Sign) (m : ℕ) (e : ℤ) :
    height (partsOf s m e) = [0, s.apply (units m e)] := by
  obtain rfl | hm := Nat.eq_zero_or_pos m
  · rw [partsOf_zero, units_zero, height_zero, Nat.cast_zero, apply_zero]
  · rw [partsOf_pos s hm, height_finite, units]
    cases s <;> simp [Sign.apply]

/-- Finite numbers compare as their heights do. -/
theorem compare_partsOf (h : Canonical m e) (h' : Canonical m' e') :
    (partsOf s m e).compare (partsOf s' m' e') =
      some (compare (s.apply (units m e)) (s'.apply (units m' e'))) := by
  obtain rfl | hm := Nat.eq_zero_or_pos m <;> obtain rfl | hm' := Nat.eq_zero_or_pos m'
  · rw [units_zero, units_zero, Nat.cast_zero, apply_zero, apply_zero]
    rfl
  · rw [units_zero, Nat.cast_zero, apply_zero, Std.OrientedOrd.eq_swap,
      compare_apply_units s' hm', partsOf_zero, partsOf_pos s' hm']
    cases s' <;> rfl
  · rw [units_zero, Nat.cast_zero, apply_zero, compare_apply_units s hm, partsOf_zero,
      partsOf_pos s hm]
    cases s <;> rfl
  · have hpos : (0 : ℤ) < units m e := Int.natCast_pos.2 (units_pos hm e)
    have hpos' : (0 : ℤ) < units m' e' := Int.natCast_pos.2 (units_pos hm' e')
    rw [partsOf_pos s hm, partsOf_pos s' hm']
    cases s <;> cases s'
    · change some ((compare e e').then (compare m m')).swap = some (compare (-_) (-_))
      rw [compare_units h h', compare_neg]
    · change some Ordering.lt = some (compare (-(units m e : ℤ)) (units m' e' : ℤ))
      rw [compare_lt_iff_lt.2 (by omega)]
    · change some Ordering.gt = some (compare (units m e : ℤ) (-(units m' e' : ℤ)))
      rw [compare_gt_iff_gt.2 (by omega)]
    · change some ((compare e e').then (compare m m')) = some (compare _ _)
      rw [compare_units h h']
      rfl

/-- Floats other than NaN compare as their heights do. -/
theorem compare_unpack (hx : x.isNaN = false) (hy : y.isNaN = false) :
    x.toModel.unpack.compare y.toModel.unpack =
      some (compare (height x.toModel.unpack) (height y.toModel.unpack)) := by
  obtain ⟨s, hs⟩ | ⟨s, m, e, hcanonical, -, hparts⟩ := exists_parts hx <;>
    obtain ⟨s', hs'⟩ | ⟨s', m', e', hcanonical', -, hparts'⟩ := exists_parts hy
  · rw [hs, hs']
    cases s <;> cases s' <;> rfl
  · rw [hs, hparts', height_partsOf, compare_infinity_finite]
    obtain rfl | hm := Nat.eq_zero_or_pos m'
    · cases s <;> rfl
    · rw [partsOf_pos s' hm]
      cases s <;> rfl
  · rw [hs', hparts, height_partsOf, compare_finite_infinity]
    obtain rfl | hm := Nat.eq_zero_or_pos m
    · cases s' <;> rfl
    · rw [partsOf_pos s hm]
      cases s' <;> cases s <;> rfl
  · rw [hparts, hparts', height_partsOf, height_partsOf, compare_finite,
      compare_partsOf hcanonical hcanonical']

theorem lt_iff_height (hx : x.isNaN = false) (hy : y.isNaN = false) :
    x < y ↔ compare (height x.toModel.unpack) (height y.toModel.unpack) = .lt := by
  rw [lt_iff_compare, compare_unpack hx hy, Option.some_inj]

theorem beq_iff_height (hx : x.isNaN = false) (hy : y.isNaN = false) :
    (x == y) = true ↔ height x.toModel.unpack = height y.toModel.unpack := by
  change (x.toModel.unpack.compare y.toModel.unpack == some .eq) = true ↔ _
  rw [compare_unpack hx hy, beq_iff_eq, Option.some_inj, Std.compare_eq_iff_eq]

/-- Of two floats other than NaN one is less, or they are equal. -/
theorem lt_or_beq_or_gt (hx : x.isNaN = false) (hy : y.isNaN = false) :
    x < y ∨ (x == y) = true ∨ y < x := by
  have heq := (beq_iff_height hx hy).trans Std.compare_eq_iff_eq.symm
  rw [lt_iff_height hx hy, heq, lt_iff_height hy hx,
    Std.OrientedOrd.eq_swap (a := height y.toModel.unpack)]
  cases compare (height x.toModel.unpack) (height y.toModel.unpack) <;> simp

/-- Floats that are equal are on the same side of all others. -/
theorem lt_iff_of_beq (hx : x.isNaN = false) (hy : y.isNaN = false) (hz : z.isNaN = false)
    (h : (x == y) = true) : (x < z ↔ y < z) ∧ (z < x ↔ z < y) := by
  rw [beq_iff_height hx hy] at h
  rw [lt_iff_height hx hz, lt_iff_height hz hx, lt_iff_height hy hz, lt_iff_height hz hy, h]
  exact ⟨Iff.rfl, Iff.rfl⟩

/-- What is less than a float is less than all floats that are not. -/
theorem lt_of_lt_of_not_lt (hx : x.isNaN = false) (hy : y.isNaN = false) (hz : z.isNaN = false)
    (h : x < z) (h' : ¬ y < z) : x < y := by
  rw [lt_iff_height hx hz] at h
  rw [lt_iff_height hy hz, ← Ordering.isGE_iff_ne_lt, Std.OrientedCmp.isGE_iff_isLE] at h'
  rw [lt_iff_height hx hy]
  exact Std.TransCmp.lt_of_lt_of_isLE h h'

/-- What is greater than a float is greater than all floats that are not. -/
theorem lt_of_not_lt_of_lt (hx : x.isNaN = false) (hy : y.isNaN = false) (hz : z.isNaN = false)
    (h : ¬ x < y) (h' : x < z) : y < z := by
  rw [lt_iff_height hx hy, ← Ordering.isGE_iff_ne_lt, Std.OrientedCmp.isGE_iff_isLE] at h
  rw [lt_iff_height hx hz] at h'
  rw [lt_iff_height hy hz]
  exact Std.TransCmp.lt_of_isLE_of_lt h h'

theorem not_lt_of_beq (hx : x.isNaN = false) (hy : y.isNaN = false) (h : (x == y) = true) :
    ¬ x < y ∧ ¬ y < x := by
  rw [beq_iff_height hx hy] at h
  rw [lt_iff_height hx hy, lt_iff_height hy hx, h, Std.compare_self]
  exact ⟨nofun, nofun⟩

/-- A float that is not below one stands for a positive natural number. -/
theorem one_le_toUnsigned64 (hx : x.isNaN = false) (h : ¬ x < 1.0) : 1 ≤ toUnsigned64 x := by
  have hone : (1.0 : Float).toModel.unpack = partsOf .positive (2 ^ 52) (-52) := rfl
  have hcanonical : Canonical (2 ^ 52) (-52) := ⟨by decide, by decide, .inl le_rfl⟩
  rw [lt_iff_compare, hone] at h
  rw [toUnsigned64_eq]
  obtain ⟨s, hs⟩ | ⟨s, m, e, hparts, -, hunpack⟩ := exists_parts hx
  · rw [hs] at h ⊢
    cases s with
    | negative => exact absurd rfl h
    | positive => decide
  · rw [hunpack, compare_partsOf hparts hcanonical, Option.some_inj, compare_lt_iff_lt] at h
    have hunits : 0 < units (2 ^ 52) (-52) := units_pos (by decide) _
    cases s with
    | negative =>
      change ¬ -(units m e : ℤ) < (units (2 ^ 52) (-52) : ℤ) at h
      omega
    | positive =>
      have hexponent : -52 ≤ e := by
        by_contra hlt
        exact h (Int.ofNat_lt.2 (units_lt_of_lt hparts hcanonical (by omega)))
      have hfull : 2 ^ 52 ≤ m := hparts.full.resolve_right (by omega)
      have hwhole : 0 < (Binary.mk false m e).whole :=
        Nat.div_pos (calc
          2 ^ (-e).toNat ≤ 2 ^ 52 := Nat.pow_le_pow_right Nat.two_pos (by omega)
          _ ≤ m := hfull
          _ ≤ m * 2 ^ e.toNat := Nat.le_mul_of_pos_right m (Nat.two_pow_pos _))
          (Nat.two_pow_pos _)
      rw [hunpack, partsOf_pos .positive (by omega)]
      exact le_min hwhole (by decide)

/-! ## Natural numbers -/

/-- Up to `2 ^ 53` every natural number is a float of its own. -/
theorem ofNat_inj {a b : ℕ} (ha : a ≤ 2 ^ 53) (hb : b ≤ 2 ^ 53)
    (h : Float.ofNat a = Float.ofNat b) : a = b := by
  rw [← toUnsigned64_ofNat ha, h, toUnsigned64_ofNat hb]

theorem whole?_ofNat {n : ℕ} (hn : n ≤ 2 ^ 53) : whole? (Float.ofNat n) = some ↑n := by
  obtain hlt | rfl := lt_or_eq_of_le hn
  · obtain ⟨b, hshape, hsign, hwhole, -⟩ := shape_signed_ofNat false hlt
    exact whole?_eq_some.2 ⟨b, hshape, by rw [hsign, hwhole]; rfl⟩
  · rfl

end Spreadsheet.Decimal
