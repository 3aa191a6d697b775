import Spreadsheet.Proofs.Decimal.FixedText
import Spreadsheet.Proofs.Decimal.Order
import Spreadsheet.Proofs.Decimal.Shifts

/-!
# Opposite numbers

A number and its opposite differ in the sign only (`shape_neg`), and so do their
products with a positive number, whether these are finite or too large
(`shape_neg_mul`).  The text of a fixed number of places leaves the sign out, and
it is the same for both (`fixed_eq_of_opposite`).
-/

namespace Spreadsheet.Decimal

open Float.Model UnpackedFloat

variable {x y : Float} {m m' : ℕ} {e e' : ℤ}

/-- The same magnitude with the other sign. -/
def Shape.opposite : Shape → Shape
  | .nan => .nan
  | .infinite negative => .infinite !negative
  | .finite b => .finite ⟨!b.negative, b.mantissa, b.exponent⟩

theorem isNegative_neg (s : Sign) : isNegative (-s) = !isNegative s := by cases s <;> rfl

theorem shapeOf_neg (u : UnpackedFloat) : shapeOf u.neg = (shapeOf u).opposite := by
  cases u with
  | notANumber => rfl
  | infinity s => exact congrArg Shape.infinite (isNegative_neg s)
  | zero s => exact congrArg (fun negative => Shape.finite ⟨negative, 0, -1074⟩) (isNegative_neg s)
  | finite s m e hm =>
    exact congrArg (fun negative => Shape.finite ⟨negative, m, e⟩) (isNegative_neg s)

/-! ## Opposite floats -/

theorem neg_partsOf (s : Sign) (m : ℕ) (e : ℤ) : (partsOf s m e).neg = partsOf (-s) m e := by
  unfold partsOf
  split <;> rfl

theorem neg_floatOf (s : Sign) (h : Canonical m e) (he : e ≤ 971) :
    -floatOf s m e = floatOf (-s) m e := by
  change Float.ofModel (pack (floatOf s m e).toModel.unpack.neg) = _
  rw [unpack_floatOf s h he, neg_partsOf]
  rfl

/-- The shapes of floats that differ in the sign, where they are finite and where they are not. -/
theorem shape_floatOf_neg (s : Sign) (h : Canonical m e) :
    shape (floatOf (-s) m e) = (shape (floatOf s m e)).opposite := by
  rw [shape_eq, shape_eq]
  obtain he | he := le_or_gt e 971
  · rw [unpack_floatOf _ h he, unpack_floatOf _ h he, ← neg_partsOf, shapeOf_neg]
  · rw [unpack_floatOf_of_large _ h he, unpack_floatOf_of_large _ h he]
    exact shapeOf_neg (.infinity s)

/-- A float other than NaN is one of the infinite ones or has parts. -/
theorem eq_infinity_or_exists_floatOf (hx : x.isNaN = false) :
    (∃ s, x = .ofModel (pack (.infinity s))) ∨
      ∃ s m e, Canonical m e ∧ e ≤ 971 ∧ x = floatOf s m e := by
  obtain ⟨s, hunpack⟩ | ⟨s, m, e, h, he, hunpack⟩ := exists_parts hx
  · refine .inl ⟨s, eq_of_toModel ?_⟩
    rw [← pack_unpack_toModel x, hunpack]
  · refine .inr ⟨s, m, e, h, he, eq_of_toModel ?_⟩
    rw [← pack_unpack_toModel x, hunpack]
    rfl

theorem shape_neg (hx : x.isNaN = false) : shape (-x) = (shape x).opposite := by
  obtain ⟨s, rfl⟩ | ⟨s, m, e, h, he, rfl⟩ := eq_infinity_or_exists_floatOf hx
  · cases s <;> rfl
  · rw [neg_floatOf s h he]
    exact shape_floatOf_neg s h

theorem unpack_infinity (s : Sign) : (pack (.infinity s)).unpack = .infinity s := by
  cases s <;> rfl

/-- An infinite number stays what it is when it is multiplied. -/
theorem infinity_mul (s : Sign) (h' : Canonical m' e') (he' : e' ≤ 971) (hpos : 0 < m') :
    Float.ofModel (pack (.infinity s)) * floatOf .positive m' e' =
      .ofModel (pack (.infinity s)) := by
  refine eq_of_toModel ?_
  rw [toModel_mul, unpack_floatOf _ h' he', partsOf_pos _ hpos]
  change pack (UnpackedFloat.mul _ (pack (.infinity s)).unpack _) = _
  rw [unpack_infinity]
  cases s <;> rfl

/-- The products of opposite numbers with a positive one are opposite. -/
theorem shape_neg_mul (hx : x.isNaN = false) (h' : Canonical m' e') (he' : e' ≤ 971)
    (hfull : 2 ^ 52 ≤ m') :
    shape (-x * floatOf .positive m' e') = (shape (x * floatOf .positive m' e')).opposite := by
  obtain ⟨s, rfl⟩ | ⟨s, m, e, h, he, rfl⟩ := eq_infinity_or_exists_floatOf hx
  · have hneg : -Float.ofModel (pack (.infinity s)) = .ofModel (pack (.infinity (-s))) := by
      cases s <;> rfl
    rw [hneg, infinity_mul s h' he' (by omega), infinity_mul (-s) h' he' (by omega)]
    cases s <;> rfl
  · obtain ⟨m₁, e₁, hround, hmul⟩ := floatOf_mul s h he h' he' hfull
    obtain ⟨m₂, e₂, hround', hmul'⟩ := floatOf_mul (-s) h he h' he' hfull
    obtain ⟨rfl, rfl⟩ := hround.unique hround'
    rw [neg_floatOf s h he, hmul, hmul']
    exact shape_floatOf_neg s hround.canonical

/-! ## Above and below zero -/

/-- Where numbers of a shape lie, seen from zero. -/
def Shape.side? : Shape → Option Ordering
  | .nan => none
  | .infinite negative => some (if negative then .lt else .gt)
  | .finite b => some (if b.mantissa = 0 then .eq else if b.negative then .lt else .gt)

theorem side?_shapeOf (u : UnpackedFloat) : (shapeOf u).side? = side? u := by
  cases u with
  | notANumber => rfl
  | infinity s => cases s <;> rfl
  | zero s => cases s <;> rfl
  | finite s m e hm =>
    rw [side?_finite, shapeOf, Shape.side?, if_neg hm.ne']
    cases s <;> rfl

theorem side?_opposite (s : Shape) : s.opposite.side? = s.side?.map Ordering.swap := by
  cases s with
  | nan => rfl
  | infinite negative => cases negative <;> rfl
  | finite b =>
    simp only [Shape.opposite, Shape.side?]
    by_cases hm : b.mantissa = 0
    · rw [if_pos hm, if_pos hm]
      rfl
    · rw [if_neg hm, if_neg hm]
      cases b.negative <;> rfl

/-- One of two opposite numbers is below zero when the other is above. -/
theorem lt_zero_iff_of_opposite (h : shape y = (shape x).opposite) : y < 0.0 ↔ 0.0 < x := by
  rw [lt_zero_iff, zero_lt_iff, ← side?_shapeOf, ← side?_shapeOf, ← shape_eq, ← shape_eq, h,
    side?_opposite]
  cases (shape x).side? with
  | none => simp
  | some side => cases side <;> simp

theorem isNaN_of_zero_lt (h : 0.0 < x) : x.isNaN = false := by
  rw [zero_lt_iff] at h
  change x.toModel.unpack.isNaN = false
  generalize x.toModel.unpack = u at h
  cases u with
  | notANumber => cases h
  | _ => rfl

theorem not_lt_zero_of_zero_lt (h : 0.0 < x) : ¬ x < 0.0 := by
  rw [zero_lt_iff] at h
  rw [lt_zero_iff, h]
  nofun

theorem zero_lt_floatOf_iff (s : Sign) (h : Canonical m e) :
    0.0 < floatOf s m e ↔ s = .positive ∧ 0 < m := by
  rw [zero_lt_iff]
  obtain he | he := le_or_gt e 971
  · rw [unpack_floatOf s h he]
    obtain rfl | hm := Nat.eq_zero_or_pos m
    · cases s <;> simp [partsOf_zero, side?, UnpackedFloat.compare]
    · rw [partsOf_pos s hm, side?_finite]
      cases s <;> simp [sideOf, hm]
  · rw [unpack_floatOf_of_large s h he, side?_infinity]
    have hm : 0 < m := by
      have := h.full
      omega
    cases s <;> simp [sideOf, hm]

/-- A positive number stays positive when it is multiplied by one that is one or more. -/
theorem zero_lt_mul (hx : 0.0 < x) (h' : Canonical m' e') (he' : e' ≤ 971) (hfull : 2 ^ 52 ≤ m')
    (hone : 1 ≤ valueOf m' e') : 0.0 < x * floatOf .positive m' e' := by
  obtain ⟨s, rfl⟩ | ⟨s, m, e, h, he, rfl⟩ := eq_infinity_or_exists_floatOf (isNaN_of_zero_lt hx)
  · rwa [infinity_mul s h' he' (by omega)]
  · obtain ⟨rfl, hm⟩ := (zero_lt_floatOf_iff s h).1 hx
    obtain ⟨m'', e'', hround, hmul⟩ := floatOf_mul .positive h he h' he' hfull
    rw [hmul, zero_lt_floatOf_iff _ hround.canonical]
    refine ⟨rfl, Nat.pos_of_ne_zero ?_⟩
    rintro rfl
    have hvalue : 0 < valueOf m e := mul_pos (by exact_mod_cast hm) (two_zpow_pos e)
    have hle := h.roundsTo.mono hround (le_mul_of_one_le_right hvalue.le hone)
    rw [valueOf_zero] at hle
    exact absurd hvalue hle.not_gt

/-! ## Texts -/

theorem fixed_eq_of_opposite (places : ℕ) (h : shape y = (shape x).opposite) :
    fixed places y = fixed places x := by
  unfold fixed
  rw [h]
  cases shape x <;> rfl

end Spreadsheet.Decimal
