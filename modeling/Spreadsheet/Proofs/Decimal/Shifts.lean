import Spreadsheet.Proofs.Decimal.Rescaling
import Spreadsheet.Proofs.Decimal.WholePart

/-!
# Moving the point

A finite float has a sign and a magnitude.  Moving the point of a float multiplies
its magnitude with a scale and takes the float that is nearest to the product
(`shift_floatOf`).  Rounding to a whole number divides the mantissa
(`Rounding.apply_of_shape`), and there the magnitude becomes exactly the whole
number that it is rounded to (`apply_floatOf`).  Neither touches the sign.
-/

namespace Spreadsheet.Decimal

open Float.Model UnpackedFloat

variable {mode : Rounding} {m n : ℕ} {e places : ℤ} {x : Float} {b : Binary}

/-! ## Magnitudes -/

/-- The value of a finite float without its sign, and zero for other floats. -/
def magnitude (x : Float) : ℚ :=
  match shape x with
  | .finite b => valueOf b.mantissa b.exponent
  | _ => 0

theorem shape_floatOf (s : Sign) (h : Canonical m e) (he : e ≤ 971) :
    shape (floatOf s m e) = .finite ⟨isNegative s, m, e⟩ := by
  rw [shape_eq, unpack_floatOf s h he, partsOf]
  split
  next hzero =>
    have hleast : e = -1074 := h.full.resolve_left (by omega)
    rw [hzero, hleast]
    rfl
  next => rfl

theorem magnitude_floatOf (s : Sign) (h : Canonical m e) (he : e ≤ 971) :
    magnitude (floatOf s m e) = valueOf m e := by
  rw [magnitude, shape_floatOf s h he]

theorem magnitude_of_not_isFinite (h : x.isFinite = false) : magnitude x = 0 := by
  change x.toModel.unpack.isFinite = false at h
  rw [magnitude, shape_eq]
  revert h
  cases x.toModel.unpack <;> intro h <;> first | rfl | cases h

/-! ## Moving the point -/

/-- What moving the point multiplies a number with. -/
def scale (places : ℤ) : ℚ :=
  if 0 ≤ places then magnitude (power 10.0 places.toNat)
  else (magnitude (power 10.0 (-places).toNat))⁻¹

theorem scale_zero : scale 0 = 1 := by
  have hone : power 10.0 (0 : ℤ).toNat = floatOf .positive (2 ^ 52) (-52) := rfl
  rw [scale, if_pos le_rfl, hone, magnitude_floatOf _ factor_one.canonical factor_one.high,
    valueOf_one]

theorem scale_neg (places : ℤ) : scale (-places) = (scale places)⁻¹ := by
  obtain hneg | rfl | hpos := lt_trichotomy places 0
  · rw [scale, scale, if_pos (by omega), if_neg (by omega), inv_inv]
  · rw [neg_zero, scale_zero, inv_one]
  · rw [scale, scale, if_neg (by omega), if_pos (by omega), neg_neg]

/-- Products and quotients of what is not finite are not finite. -/
theorem isFinite_scaled (hx : x.isFinite = false) (h : Factor m e) :
    (x * floatOf .positive m e).isFinite = false ∧
      (x / floatOf .positive m e).isFinite = false := by
  have hm : m ≠ 0 := by have := h.full; omega
  change (x * floatOf .positive m e).toModel.unpack.isFinite = false ∧
    (x / floatOf .positive m e).toModel.unpack.isFinite = false
  change x.toModel.unpack.isFinite = false at hx
  rw [toModel_mul, toModel_div, unpack_floatOf _ h.canonical h.high, partsOf, dif_neg hm]
  cases hunpack : x.toModel.unpack with
  | notANumber =>
    change (pack .notANumber).unpack.isFinite = false ∧ (pack .notANumber).unpack.isFinite = false
    exact ⟨rfl, rfl⟩
  | infinity s =>
    change (pack (.infinity (s * .positive))).unpack.isFinite = false ∧
      (pack (.infinity (s / .positive))).unpack.isFinite = false
    cases s <;> exact ⟨rfl, rfl⟩
  | zero s =>
    rw [hunpack] at hx
    cases hx
  | finite s m e hm =>
    rw [hunpack] at hx
    cases hx

/-- Moving the point is a multiplication or a division. -/
theorem shift_cases (places : ℤ) (hplaces : places.natAbs ≤ 308) :
    ∃ m e, Factor m e ∧
      ((scale places = valueOf m e ∧ ∀ x, shift x places = x * floatOf .positive m e) ∨
        (scale places = (valueOf m e)⁻¹ ∧ ∀ x, shift x places = x / floatOf .positive m e)) := by
  unfold scale shift
  split
  next =>
    obtain ⟨m, e, hfactor, heq⟩ := power_ten (j := places.toNat) (by omega)
    rw [heq, magnitude_floatOf _ hfactor.canonical hfactor.high]
    exact ⟨m, e, hfactor, .inl ⟨rfl, fun _ => rfl⟩⟩
  next =>
    obtain ⟨m, e, hfactor, heq⟩ := power_ten (j := (-places).toNat) (by omega)
    rw [heq, magnitude_floatOf _ hfactor.canonical hfactor.high]
    exact ⟨m, e, hfactor, .inr ⟨rfl, fun _ => rfl⟩⟩

section

variable (hplaces : places.natAbs ≤ 308)
include hplaces

theorem isScale_scale : IsScale (scale places) := by
  obtain ⟨m, e, hfactor, ⟨hscale, -⟩ | ⟨hscale, -⟩⟩ := shift_cases places hplaces
  · exact ⟨m, e, hfactor, .inl hscale⟩
  · exact ⟨m, e, hfactor, .inr hscale⟩

/-- Moving the point gives the float that is nearest to the scaled number. -/
theorem shift_floatOf (s : Sign) (h : Canonical m e) (he : e ≤ 971) :
    ∃ m' e', RoundsTo (valueOf m e * scale places) m' e' ∧
      shift (floatOf s m e) places = floatOf s m' e' := by
  obtain ⟨mp, ep, hfactor, ⟨hscale, hshift⟩ | ⟨hscale, hshift⟩⟩ := shift_cases places hplaces
  · rw [hscale, hshift]
    exact floatOf_mul s h he hfactor.canonical hfactor.high hfactor.full
  · rw [hscale, hshift, ← div_eq_mul_inv]
    exact floatOf_div s h he hfactor.canonical hfactor.high hfactor.full

/-- A number that is not finite is not finite either after its point was moved. -/
theorem isFinite_shift (hx : x.isFinite = false) : (shift x places).isFinite = false := by
  obtain ⟨mp, ep, hfactor, ⟨-, hshift⟩ | ⟨-, hshift⟩⟩ := shift_cases places hplaces
  · rw [hshift]
    exact (isFinite_scaled hx hfactor).1
  · rw [hshift]
    exact (isFinite_scaled hx hfactor).2

end

/-! ## Rounding to a whole number -/

/-- The whole number that a quotient is rounded to, by what is left of the division. -/
def Rounding.quotient (a unit : ℕ) : Rounding → ℕ
  | .nearest => if unit ≤ 2 * (a % unit) then a / unit + 1 else a / unit
  | .up => if a % unit = 0 then a / unit else a / unit + 1
  | .down => a / unit

theorem Rounding.quotient_le (mode : Rounding) (a unit : ℕ) :
    mode.quotient a unit ≤ a / unit + 1 := by
  cases mode <;> unfold quotient <;> dsimp only <;> first | omega | (split <;> omega)

theorem Rounding.quotient_eq (mode : Rounding) (a : ℕ) {unit : ℕ} (hunit : 0 < unit) :
    mode.quotient a unit = mode.whole (a / unit) := by
  have hpos : (0 : ℚ) < unit := Nat.cast_pos.2 hunit
  obtain ⟨hparts, hrest⟩ := quotient_eq_add a hunit
  have hnonneg : 0 ≤ ((a % unit : ℕ) : ℚ) / unit := by positivity
  cases mode with
  | down => exact (Nat.floor_div_eq_div a unit).symm
  | up =>
    change (if a % unit = 0 then a / unit else a / unit + 1) = ⌈(a : ℚ) / unit⌉₊
    rw [hparts]
    split
    next hzero => rw [hzero, Nat.cast_zero, zero_div, add_zero, Nat.ceil_natCast]
    next hmore =>
      have hlow : 0 < ((a % unit : ℕ) : ℚ) / unit :=
        div_pos (Nat.cast_pos.2 (Nat.pos_of_ne_zero hmore)) hpos
      refine ((Nat.ceil_eq_iff (Nat.succ_ne_zero _)).2 ⟨?_, ?_⟩).symm
      · rw [Nat.succ_sub_one]
        linarith
      · push_cast
        linarith
  | nearest =>
    have hhalf : unit ≤ 2 * (a % unit) ↔ 1 / 2 ≤ ((a % unit : ℕ) : ℚ) / unit := by
      rw [le_div_iff₀ hpos]
      constructor <;> intro h
      · have hcast : (unit : ℚ) ≤ 2 * (a % unit : ℕ) := by exact_mod_cast h
        linarith
      · have hcast : (unit : ℚ) ≤ 2 * (a % unit : ℕ) := by linarith
        exact_mod_cast hcast
    change (if unit ≤ 2 * (a % unit) then a / unit + 1 else a / unit) = ⌊(a : ℚ) / unit + 1 / 2⌋₊
    rw [hparts]
    split
    next hle =>
      rw [hhalf] at hle
      refine ((Nat.floor_eq_iff (by positivity)).2 ⟨?_, ?_⟩).symm <;> push_cast <;> linarith
    next hlt =>
      rw [hhalf] at hlt
      refine ((Nat.floor_eq_iff (by positivity)).2 ⟨?_, ?_⟩).symm <;> linarith

theorem zero_le_iff_of_shape (h : shape x = .finite b) :
    0.0 ≤ x ↔ (b.negative = true → b.mantissa = 0) := by
  have hle : 0.0 ≤ x ↔ (UnpackedFloat.zero .positive).le x.toModel.unpack = true := by
    change decide ((0.0 : Float).toModel ≤ x.toModel) = true ↔ _
    rw [decide_eq_true_iff]
    rfl
  rw [hle]
  obtain ⟨hm, s, -, hunpack⟩ | ⟨s, hm, hs, -, hunpack⟩ := unpack_of_shape h
  · rw [hunpack]
    exact iff_of_true rfl fun _ => hm
  · rw [hunpack, ← hs]
    cases s with
    | positive => exact iff_of_true rfl nofun
    | negative => exact iff_of_false nofun fun hzero => hm.ne' (hzero rfl)

theorem roundWith_of_shape (up : Bool → ℕ → ℕ → ℕ → Bool) (h : shape x = .finite b) :
    roundWith up x =
      if 0 ≤ b.exponent then x
      else signed b.negative (Float.ofNat (if up b.negative
        (b.mantissa / 2 ^ (-b.exponent).toNat) (b.mantissa % 2 ^ (-b.exponent).toNat)
        (2 ^ (-b.exponent).toNat)
      then b.mantissa / 2 ^ (-b.exponent).toNat + 1
      else b.mantissa / 2 ^ (-b.exponent).toNat)) := by
  unfold roundWith
  rw [h]
  rfl

/-- A float that is not whole is rounded by dividing its mantissa. -/
theorem Rounding.apply_of_shape (mode : Rounding) (h : shape x = .finite b) :
    mode.apply x =
      if 0 ≤ b.exponent then x
      else signed b.negative
        (Float.ofNat (mode.quotient b.mantissa (2 ^ (-b.exponent).toNat))) := by
  cases mode with
  | nearest =>
    change Decimal.nearest x = _
    rw [Decimal.nearest, roundWith_of_shape _ h]
    simp only [quotient, decide_eq_true_eq]
  | down =>
    change truncate x = _
    rw [truncate, roundWith_of_shape _ h]
    simp only [quotient, Bool.false_eq_true, if_false]
  | up =>
    change (if 0.0 ≤ x then ceiling x else floor x) = _
    rw [ceiling, floor, roundWith_of_shape _ h, roundWith_of_shape _ h]
    unfold quotient
    split
    next hle =>
      rw [zero_le_iff_of_shape h] at hle
      cases hneg : b.negative with
      | false => simp
      | true => simp [hle hneg]
    next hlt =>
      rw [zero_le_iff_of_shape h, Classical.not_imp] at hlt
      simp [hlt.1]

/-- A natural number below `2 ^ 53` with a sign is a float. -/
theorem signed_ofNat (s : Sign) (hn : n < 2 ^ 53) :
    ∃ m e, Canonical m e ∧ e ≤ 971 ∧ valueOf m e = n ∧
      signed (isNegative s) (Float.ofNat n) = floatOf s m e := by
  obtain rfl | hpos := Nat.eq_zero_or_pos n
  · refine ⟨0, -1074, canonical_zero, by decide, by rw [valueOf_zero, Nat.cast_zero], ?_⟩
    cases s <;> rfl
  · obtain ⟨hcanonical, hvalue⟩ := valueOf_full_length hpos hn
    have hlog : n.log2 < 53 := (Nat.log2_lt hpos.ne').2 hn
    have hmantissa : n * 2 ^ (52 - n.log2) ≠ 0 := (Nat.mul_pos hpos (Nat.two_pow_pos _)).ne'
    refine ⟨_, _, hcanonical, by omega, hvalue, eq_of_toModel ?_⟩
    change _ = pack (partsOf s _ _)
    rw [partsOf, dif_neg hmantissa]
    cases s with
    | positive => exact toModel_ofNat hpos hn
    | negative =>
      change pack (Float.ofNat n).toModel.unpack.neg = _
      rw [unpack_ofNat hpos hn]
      rfl

/-- Rounding to a whole number is exact. -/
theorem apply_floatOf (mode : Rounding) (s : Sign) (h : Canonical m e) (he : e ≤ 971) :
    ∃ m' e', Canonical m' e' ∧ e' ≤ 971 ∧ valueOf m' e' = mode.whole (valueOf m e) ∧
      mode.apply (floatOf s m e) = floatOf s m' e' := by
  have happly := mode.apply_of_shape (shape_floatOf s h he)
  dsimp only at happly
  obtain hwhole | hfraction := le_or_gt 0 e
  · obtain ⟨k, hk⟩ := exists_natCast m hwhole
    rw [if_pos hwhole] at happly
    exact ⟨m, e, h, he, by rw [hk, Rounding.whole_natCast], happly⟩
  · rw [if_neg (not_le.2 hfraction)] at happly
    have hunit : 2 ≤ 2 ^ (-e).toNat := Nat.le_self_pow (by omega) 2
    have hsmall : mode.quotient m (2 ^ (-e).toNat) < 2 ^ 53 := by
      have hdiv : m / 2 ^ (-e).toNat ≤ m / 2 := Nat.div_le_div_left hunit two_pos
      have hle := mode.quotient_le m (2 ^ (-e).toNat)
      have hlt := h.lt
      omega
    have hunits : valueOf m e = m / (2 ^ (-e).toNat : ℕ) := by
      have hexponent : e = -((-e).toNat : ℤ) := by omega
      rw [valueOf, hexponent, zpow_neg, zpow_natCast, ← div_eq_mul_inv, neg_neg, Int.toNat_natCast]
      push_cast
      rfl
    obtain ⟨m', e', hcanonical, he', hvalue, heq⟩ := signed_ofNat s hsmall
    refine ⟨m', e', hcanonical, he', ?_, happly.trans heq⟩
    rw [hvalue, mode.quotient_eq m (by omega), hunits]

end Spreadsheet.Decimal
