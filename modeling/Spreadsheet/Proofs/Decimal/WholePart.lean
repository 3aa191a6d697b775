import Spreadsheet.Proofs.Decimal.Whole

/-!
# Whole parts

Where a function takes a number for a position it drops the fraction first.
What is left of a finite number is its *whole part* (`whole?`), and dropping the
fraction gives the float of that number, with the sign of the first
(`shape_truncate`).  So the two tests that follow see the whole part: whether
it is below zero (`truncate_lt_zero_iff`), and which natural number of 64 bits it
is (`toUnsigned64_truncate`).  The latter is exact for numbers below `2 ^ 64`.  All
greater ones are taken for the greatest number of 64 bits, and so is the positive
infinite number.
-/

namespace Spreadsheet.Decimal

open Float.Model UnpackedFloat

variable {x : Float} {b : Binary} {k : Int}

/-- What is left of a finite number without its fraction. -/
def whole? (x : Float) : Option Int :=
  match shape x with
  | .finite b => some (if b.negative then -b.whole else b.whole)
  | _ => none

theorem whole?_eq_some :
    whole? x = some k ↔
      ∃ b, shape x = .finite b ∧ (if b.negative then -(b.whole : Int) else b.whole) = k := by
  unfold whole?
  cases shape x <;> simp

/-- A finite number is unpacked to zero or to a number with a mantissa. -/
theorem unpack_of_shape (h : shape x = .finite b) :
    (b.mantissa = 0 ∧ ∃ s, isNegative s = b.negative ∧ x.toModel.unpack = .zero s) ∨
      ∃ s hm, isNegative s = b.negative ∧ b.mantissa < 2 ^ 53 ∧
        x.toModel.unpack = .finite s b.mantissa b.exponent hm := by
  have hbounded := unpack_bounded x
  rw [shape_eq] at h
  generalize x.toModel.unpack = u at h hbounded
  cases u with
  | notANumber => cases h
  | infinity s => cases h
  | zero s =>
    cases h
    exact .inl ⟨rfl, s, rfl, rfl⟩
  | finite s m e hm =>
    cases h
    exact .inr ⟨s, hm, rfl, hbounded.1, rfl⟩

theorem mantissa_lt (h : shape x = .finite b) : b.mantissa < 2 ^ 53 := by
  obtain ⟨hm, -⟩ | ⟨-, -, -, hm, -⟩ := unpack_of_shape h
  · omega
  · exact hm

/-- A finite number is below zero when it has the negative sign and a mantissa. -/
theorem lt_zero_iff_of_shape (h : shape x = .finite b) :
    x < 0.0 ↔ b.negative = true ∧ 0 < b.mantissa := by
  rw [lt_zero_iff]
  obtain ⟨hm, s, -, hunpack⟩ | ⟨s, hm, hs, -, hunpack⟩ := unpack_of_shape h
  · rw [hunpack, hm]
    simp [side?, UnpackedFloat.compare]
  · rw [hunpack, side?_finite, ← hs]
    cases s <;> simp [sideOf, isNegative, hm]

/-! ## Dropping the fraction -/

/-- A natural number below `2 ^ 53` with a sign is a float with this whole part. -/
theorem shape_signed_ofNat (negative : Bool) {n : Nat} (hlt : n < 2 ^ 53) :
    ∃ b, shape (signed negative (Float.ofNat n)) = .finite b ∧ b.negative = negative ∧
      b.whole = n ∧ (0 < b.mantissa ↔ 0 < n) := by
  obtain rfl | hn := Nat.eq_zero_or_pos n
  · cases negative with
    | false =>
      exact ⟨⟨false, 0, -1074⟩, rfl, rfl, whole_eq_zero (Nat.two_pow_pos _), Iff.rfl⟩
    | true =>
      exact ⟨⟨true, 0, -1074⟩, rfl, rfl, whole_eq_zero (Nat.two_pow_pos _), Iff.rfl⟩
  · obtain ⟨hlow, hhigh⟩ := full_length hn hlt
    have hlog : n.log2 < 53 := (Nat.log2_lt hn.ne').2 hlt
    have hmantissa : 0 < n * 2 ^ (52 - n.log2) := by omega
    refine ⟨⟨negative, n * 2 ^ (52 - n.log2), n.log2 - 52⟩, ?_, rfl,
      whole_full_length negative hn hlt, iff_of_true hmantissa hn⟩
    cases negative with
    | false => exact shape_ofNat hn hlt
    | true =>
      have hunpack : (-Float.ofNat n).toModel.unpack =
          .finite .negative (n * 2 ^ (52 - n.log2)) (n.log2 - 52) hmantissa := by
        change (pack (Float.ofNat n).toModel.unpack.neg).unpack = _
        rw [unpack_ofNat hn hlt]
        exact unpack_pack .negative hmantissa hlow hhigh (by omega) (by omega)
      change shape (-Float.ofNat n) = _
      rw [shape_eq, hunpack]
      rfl

/-- Dropping the fraction keeps the sign and the whole part, and nothing else. -/
theorem shape_truncate (h : shape x = .finite b) :
    ∃ b', shape (truncate x) = .finite b' ∧ b'.negative = b.negative ∧ b'.whole = b.whole ∧
      (0 < b'.mantissa ↔ 0 < b.whole) := by
  unfold truncate roundWith
  rw [h]
  dsimp only
  by_cases he : 0 ≤ b.exponent
  · have hwhole : b.whole = b.mantissa * 2 ^ b.exponent.toNat := by
      change b.mantissa * 2 ^ b.exponent.toNat / 2 ^ (-b.exponent).toNat = _
      rw [show (-b.exponent).toNat = 0 by omega, Nat.pow_zero, Nat.div_one]
    refine ⟨b, by rw [if_pos he, h], rfl, rfl, ?_⟩
    rw [hwhole, Nat.mul_pos_iff_of_pos_right (Nat.two_pow_pos _)]
  · have hwhole : b.mantissa / Nat.pow 2 (-b.exponent).toNat = b.whole := by
      change _ = b.mantissa * 2 ^ b.exponent.toNat / 2 ^ (-b.exponent).toNat
      rw [show b.exponent.toNat = 0 by omega, Nat.pow_zero, Nat.mul_one]
      rfl
    have hlt : b.whole < 2 ^ 53 := hwhole ▸ (Nat.div_le_self _ _).trans_lt (mantissa_lt h)
    rw [if_neg he, if_neg Bool.false_ne_true, hwhole]
    exact shape_signed_ofNat b.negative hlt

theorem whole?_truncate (h : whole? x = some k) : whole? (truncate x) = some k := by
  obtain ⟨b, hb, rfl⟩ := whole?_eq_some.1 h
  obtain ⟨b', hb', hnegative, hwhole, -⟩ := shape_truncate hb
  exact whole?_eq_some.2 ⟨b', hb', by rw [hnegative, hwhole]⟩

/-- Without its fraction a number is below zero when its whole part is. -/
theorem truncate_lt_zero_iff (h : whole? x = some k) : truncate x < 0.0 ↔ k < 0 := by
  obtain ⟨b, hb, rfl⟩ := whole?_eq_some.1 h
  obtain ⟨b', hb', hnegative, -, hmantissa⟩ := shape_truncate hb
  rw [lt_zero_iff_of_shape hb', hnegative, hmantissa]
  cases b.negative <;> simp

/-- A number stands for its whole part, as far as 64 bits reach. -/
theorem toUnsigned64_of_whole? (h : whole? x = some k) :
    toUnsigned64 x = min k.toNat 18446744073709551615 := by
  obtain ⟨b, hb, rfl⟩ := whole?_eq_some.1 h
  rw [toUnsigned64_eq, ← shape_eq, hb]
  dsimp only
  cases b.negative <;> simp

/-- Without its fraction it stands for the same. -/
theorem toUnsigned64_truncate (h : whole? x = some k) :
    toUnsigned64 (truncate x) = min k.toNat 18446744073709551615 :=
  toUnsigned64_of_whole? (whole?_truncate h)

/-! ## Large numbers -/

/-- A number below `2 ^ 64` has a whole part below it. -/
theorem whole?_lt (h : whole? x = some k) (hx : x < 18446744073709551616.0) : k < 2 ^ 64 := by
  have hlimit : (18446744073709551616.0 : Float).toModel.unpack =
      .finite .positive (2 ^ 52) 12 (by decide) := rfl
  obtain ⟨b, hb, rfl⟩ := whole?_eq_some.1 h
  rw [lt_iff_compare, hlimit] at hx
  obtain ⟨hm, -⟩ | ⟨s, hm, hs, hlt, hunpack⟩ := unpack_of_shape hb
  · have hwhole : b.whole = 0 := by
      change b.mantissa * _ / _ = 0
      rw [hm, Nat.zero_mul, Nat.zero_div]
    rw [hwhole]
    split <;> decide
  · cases s with
    | negative =>
      rw [← hs]
      simp only [isNegative, if_true]
      omega
    | positive =>
      rw [hunpack] at hx
      change some ((compare b.exponent 12).then (compare b.mantissa (2 ^ 52))) = some .lt at hx
      rw [Option.some_inj, Ordering.then_eq_lt, Int.compare_eq_lt, Int.compare_eq_eq,
        Nat.compare_eq_lt] at hx
      have hproduct : b.mantissa * 2 ^ b.exponent.toNat < 2 ^ 64 := by
        obtain he | ⟨he, hm⟩ := hx
        · calc
            b.mantissa * 2 ^ b.exponent.toNat ≤ b.mantissa * 2 ^ 11 :=
              Nat.mul_le_mul_left _ (Nat.pow_le_pow_right Nat.two_pos (by omega))
            _ < 2 ^ 64 := by omega
        · rw [he]
          change b.mantissa * 2 ^ 12 < 2 ^ 64
          omega
      have hwhole : b.whole < 2 ^ 64 := (Nat.div_le_self _ _).trans_lt hproduct
      rw [← hs]
      simp only [isNegative, Bool.false_eq_true, if_false]
      omega

/-- An infinite number has no fraction to drop.  It is below zero, or it is not below `2 ^ 64` and
taken for the greatest number of 64 bits. -/
theorem truncate_of_isInf (h : x.isInf = true) :
    truncate x < 0.0 ∨
      ¬ x < 18446744073709551616.0 ∧ toUnsigned64 (truncate x) = 18446744073709551615 := by
  obtain ⟨s, hs⟩ := exists_infinity_of_isInf h
  have hshape : shape x = .infinite (isNegative s) := by rw [shape_eq, hs, shapeOf]
  have htruncate : truncate x = x := by
    unfold truncate roundWith
    rw [hshape]
  rw [htruncate]
  cases s with
  | negative =>
    left
    rw [lt_zero_iff, hs]
    rfl
  | positive =>
    right
    rw [toUnsigned64_eq, lt_iff_compare, hs]
    refine ⟨fun hlt => ?_, rfl⟩
    cases hlt

/-! ## Whole parts of 64 bits with a sign -/

/-- A number stands for its whole part, as far as 64 bits with a sign reach. -/
theorem toSigned64_eq (h : whole? x = some k) :
    toSigned64 x = max wholeBounds.1 (min wholeBounds.2 k) := by
  obtain ⟨b, hb, rfl⟩ := whole?_eq_some.1 h
  unfold toSigned64 toWhole
  rw [hb]
  rfl

theorem toSigned64_of_small (h : whole? x = some k) (hk : k.natAbs < 2 ^ 63) :
    toSigned64 x = k := by
  rw [toSigned64_eq h]
  unfold wholeBounds
  dsimp only
  omega

/-- Large whole parts have a large unit. -/
theorem dvd_of_whole? (h : whole? x = some k) (hk : 2 ^ 61 ≤ k.natAbs) : 512 ∣ k := by
  obtain ⟨b, hb, hwhole⟩ := whole?_eq_some.1 h
  have hm := mantissa_lt hb
  have habs : k.natAbs = b.whole := by
    rw [← hwhole]
    split <;> simp
  rw [habs] at hk
  have hexponent : 9 ≤ b.exponent := by
    by_contra hlt
    have hpow : b.mantissa * 2 ^ b.exponent.toNat ≤ b.mantissa * 2 ^ 8 :=
      Nat.mul_le_mul_left _ (Nat.pow_le_pow_right Nat.two_pos (by omega))
    have hle : b.whole ≤ b.mantissa * 2 ^ b.exponent.toNat := Nat.div_le_self _ _
    omega
  have hunit : b.whole = b.mantissa * 2 ^ b.exponent.toNat := by
    change b.mantissa * 2 ^ b.exponent.toNat / 2 ^ (-b.exponent).toNat = _
    rw [show (-b.exponent).toNat = 0 by omega, Nat.pow_zero, Nat.div_one]
  rw [← Int.natAbs_dvd_natAbs, habs, hunit]
  exact Dvd.dvd.mul_left (pow_dvd_pow 2 (show 9 ≤ b.exponent.toNat by omega)) _

/-- Where two numbers have different whole parts next to each other, 64 bits reach both. -/
theorem toSigned64_of_near {y : Float} {j : Int} (h : whole? x = some k)
    (h' : whole? y = some (k + j)) (hlow : 0 < j) (hhigh : j < 512) :
    toSigned64 x = k ∧ toSigned64 y = k + j := by
  have hsmall : k.natAbs < 2 ^ 62 := by
    by_contra hlarge
    have hdvd := dvd_of_whole? h (by omega)
    have hdvd' := dvd_of_whole? h' (by omega)
    omega
  exact ⟨toSigned64_of_small h (by omega), toSigned64_of_small h' (by omega)⟩

end Spreadsheet.Decimal
