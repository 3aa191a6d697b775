import Mathlib

/-!
# Nearest floats

A float without its sign is `m * 2 ^ e`, with a mantissa of 53 bits unless the
exponent is the least one (`Canonical`).  The numbers that are rounded to it reach
half way to the float above and half way to the one below, which is nearer where
the mantissa is the least of full length.  The ends of that interval belong to it
when the mantissa is even (`RoundsTo`).

No float lies strictly between two neighbours (`Canonical.next_le`,
`Canonical.le_previous`).  So rounding keeps the order (`RoundsTo.mono`), a number
is rounded to one float only (`RoundsTo.unique`), and no float is nearer to it
(`RoundsTo.nearest`).
-/

namespace Spreadsheet.Decimal

variable {m m' : ℕ} {e e' : ℤ} {q q' : ℚ}

/-- The value of a mantissa with an exponent. -/
def valueOf (m : ℕ) (e : ℤ) : ℚ := m * 2 ^ e

/-- The mantissa and the exponent of a float, if that is not too large. -/
structure Canonical (m : ℕ) (e : ℤ) : Prop where
  /-- A mantissa has 53 bits at most. -/
  lt : m < 2 ^ 53
  /-- Exponents are not below the least one. -/
  le : -1074 ≤ e
  /-- The mantissa has all its bits unless the exponent is the least one. -/
  full : 2 ^ 52 ≤ m ∨ e = -1074

/-- Half the distance to the float below, in units of the last bit. -/
def halfBelow (m : ℕ) (e : ℤ) : ℚ := if m = 2 ^ 52 ∧ -1074 < e then 1 / 4 else 1 / 2

/-- A number is rounded to a mantissa with an exponent. -/
structure RoundsTo (q : ℚ) (m : ℕ) (e : ℤ) : Prop where
  /-- These are the parts of a float. -/
  canonical : Canonical m e
  /-- The float below is not nearer. -/
  lower : (m - halfBelow m e) * 2 ^ e ≤ q
  /-- The float above is not nearer. -/
  upper : q ≤ (m + 1 / 2) * 2 ^ e
  /-- Of two that are equally near, the one with an even mantissa is taken. -/
  even : q = (m - halfBelow m e) * 2 ^ e ∨ q = (m + 1 / 2) * 2 ^ e → Even m

/-! ## Neighbours -/

theorem two_zpow_pos (e : ℤ) : (0 : ℚ) < 2 ^ e := zpow_pos (by norm_num) e

theorem valueOf_zero (e : ℤ) : valueOf 0 e = 0 := by rw [valueOf, Nat.cast_zero, zero_mul]

/-- A power of two that is at least twice as large. -/
theorem two_mul_zpow_le (h : e' < e) : 2 * (2 : ℚ) ^ e' ≤ 2 ^ e := by
  have hstep : 2 * (2 : ℚ) ^ e' = 2 ^ (e' + 1) := by
    rw [zpow_add_one₀ (by norm_num), mul_comm]
  rw [hstep]
  exact zpow_le_zpow_right₀ (by norm_num) (by omega)

/-- A greater exponent is made up for by a greater mantissa. -/
theorem valueOf_eq_mul (m : ℕ) (h : e ≤ e') :
    valueOf m e' = (m * 2 ^ (e' - e).toNat : ℕ) * (2 : ℚ) ^ e := by
  have hpow : (2 : ℚ) ^ e' = 2 ^ (e' - e).toNat * 2 ^ e := by
    rw [← zpow_natCast, ← zpow_add₀ (by norm_num)]
    congr 1
    omega
  rw [valueOf, hpow]
  push_cast
  ring

theorem halfBelow_eq (m : ℕ) (e : ℤ) : halfBelow m e = 1 / 2 ∨ m = 2 ^ 52 := by
  unfold halfBelow
  split
  next hleast => exact .inr hleast.1
  next => exact .inl rfl

theorem halfBelow_le (m : ℕ) (e : ℤ) : halfBelow m e ≤ 1 / 2 := by
  unfold halfBelow
  split <;> norm_num

theorem halfBelow_pos (m : ℕ) (e : ℤ) : 0 < halfBelow m e := by
  unfold halfBelow
  split <;> norm_num

/-- A mantissa has 53 bits at most. -/
theorem Canonical.valueOf_lt {j : ℤ} (h : Canonical m e) (he : e + 53 ≤ j) : valueOf m e < 2 ^ j :=
  calc
    valueOf m e < 2 ^ (53 : ℤ) * 2 ^ e :=
      mul_lt_mul_of_pos_right (by exact_mod_cast h.lt) (two_zpow_pos e)
    _ = 2 ^ (e + 53) := by rw [← zpow_add₀ (by norm_num), add_comm]
    _ ≤ 2 ^ j := zpow_le_zpow_right₀ (by norm_num) he

/-- A mantissa of full length has 53 bits. -/
theorem le_valueOf {j : ℤ} (hm : 2 ^ 52 ≤ m) (he : j ≤ e + 52) : 2 ^ j ≤ valueOf m e :=
  calc
    (2 : ℚ) ^ j ≤ 2 ^ (e + 52) := zpow_le_zpow_right₀ (by norm_num) he
    _ = 2 ^ (52 : ℤ) * 2 ^ e := by rw [← zpow_add₀ (by norm_num), add_comm]
    _ ≤ valueOf m e := mul_le_mul_of_nonneg_right (by exact_mod_cast hm) (two_zpow_pos e).le

/-- Between a float and the next one there is none. -/
theorem Canonical.next_le (h : Canonical m e) (h' : Canonical m' e')
    (hlt : valueOf m e < valueOf m' e') : (m + 1) * 2 ^ e ≤ valueOf m' e' := by
  have hpos := two_zpow_pos e
  obtain hle | hgt := le_or_gt e e'
  · rw [valueOf_eq_mul m' hle] at hlt ⊢
    have hmantissa : m < m' * 2 ^ (e' - e).toNat :=
      Nat.cast_lt.1 (lt_of_mul_lt_mul_right hlt hpos.le)
    exact mul_le_mul_of_nonneg_right (by exact_mod_cast hmantissa) hpos.le
  · -- with the smaller exponent the other one cannot reach this far
    have hfull : 2 ^ 52 ≤ m := h.full.resolve_right (by have := h'.le; omega)
    have hpos' := two_zpow_pos e'
    have htwice := two_mul_zpow_le hgt
    have hsmall : valueOf m' e' < 2 ^ 53 * 2 ^ e' :=
      mul_lt_mul_of_pos_right (by exact_mod_cast h'.lt) hpos'
    have hlarge : (2 : ℚ) ^ 52 * 2 ^ e ≤ valueOf m e :=
      mul_le_mul_of_nonneg_right (by exact_mod_cast hfull) hpos.le
    linarith

/-- Between a float and the previous one there is none. -/
theorem Canonical.le_previous (h : Canonical m e) (h' : Canonical m' e')
    (hlt : valueOf m' e' < valueOf m e) : valueOf m' e' ≤ (m - 2 * halfBelow m e) * 2 ^ e := by
  have hpos := two_zpow_pos e
  have hhalf := halfBelow_le m e
  obtain hle | hgt := le_or_gt e e'
  · rw [valueOf_eq_mul m' hle] at hlt ⊢
    have hmantissa : m' * 2 ^ (e' - e).toNat + 1 ≤ m :=
      Nat.cast_lt.1 (lt_of_mul_lt_mul_right hlt hpos.le)
    have hcast : ((m' * 2 ^ (e' - e).toNat : ℕ) : ℚ) + 1 ≤ m := by exact_mod_cast hmantissa
    exact mul_le_mul_of_nonneg_right (by linarith) hpos.le
  · have hfull : 2 ^ 52 ≤ m := h.full.resolve_right (by have := h'.le; omega)
    have hpos' := two_zpow_pos e'
    have htwice := two_mul_zpow_le hgt
    have hsmall : valueOf m' e' ≤ (2 ^ 53 - 1) * 2 ^ e' := by
      refine mul_le_mul_of_nonneg_right ?_ hpos'.le
      have hmantissa : m' + 1 ≤ 2 ^ 53 := h'.lt
      have hcast : (m' : ℚ) + 1 ≤ 2 ^ 53 := by exact_mod_cast hmantissa
      linarith
    unfold halfBelow
    split
    next hleast =>
      rw [hleast.1]
      push_cast
      linarith
    next hmore =>
      have hnext : 2 ^ 52 + 1 ≤ m := by
        have hne : m ≠ 2 ^ 52 := fun heq => hmore ⟨heq, by have := h'.le; omega⟩
        omega
      have hcast : (2 : ℚ) ^ 52 + 1 ≤ m := by exact_mod_cast hnext
      have hlarge : (2 : ℚ) ^ 52 * 2 ^ e ≤ (m - 2 * (1 / 2)) * 2 ^ e :=
        mul_le_mul_of_nonneg_right (by linarith) hpos.le
      linarith

/-- A value of a float is the value of no other one. -/
theorem Canonical.eq_of_valueOf (h : Canonical m e) (h' : Canonical m' e')
    (heq : valueOf m e = valueOf m' e') : m = m' ∧ e = e' := by
  have hexponent : e = e' := by
    by_contra hne
    wlog hlt : e < e' generalizing m m' e e'
    · exact this h' h heq.symm (Ne.symm hne) (by omega)
    have hfull : 2 ^ 52 ≤ m' := h'.full.resolve_right (by have := h.le; omega)
    have htwice := two_mul_zpow_le hlt
    have hsmall : valueOf m e < 2 ^ 53 * 2 ^ e :=
      mul_lt_mul_of_pos_right (by exact_mod_cast h.lt) (two_zpow_pos e)
    have hlarge : (2 : ℚ) ^ 52 * 2 ^ e' ≤ valueOf m' e' :=
      mul_le_mul_of_nonneg_right (by exact_mod_cast hfull) (two_zpow_pos e').le
    linarith
  subst hexponent
  exact ⟨Nat.cast_injective (mul_right_cancel₀ (two_zpow_pos e).ne' heq), rfl⟩

/-! ## Rounding -/

/-- A float is rounded to itself. -/
theorem Canonical.roundsTo (h : Canonical m e) : RoundsTo (valueOf m e) m e := by
  have hpos := two_zpow_pos e
  have hbelow := mul_pos (halfBelow_pos m e) hpos
  refine ⟨h, ?_, ?_, ?_⟩
  · unfold valueOf
    linarith
  · unfold valueOf
    linarith
  · unfold valueOf
    rintro (heq | heq) <;> linarith

namespace RoundsTo

/-- Rounding keeps the order. -/
theorem mono (h : RoundsTo q m e) (h' : RoundsTo q' m' e') (hle : q ≤ q') :
    valueOf m e ≤ valueOf m' e' := by
  by_contra hlt
  rw [not_le] at hlt
  have hnext := h'.canonical.next_le h.canonical hlt
  have hprevious := h.canonical.le_previous h'.canonical hlt
  have hlower := h.lower
  have hupper := h'.upper
  have hpos := two_zpow_pos e
  have hpos' := two_zpow_pos e'
  unfold valueOf at hnext hprevious
  -- both numbers are the middle between the two floats, which are neighbours with even mantissas
  have heven : Even m := h.even (.inl (by linarith))
  have heven' : Even m' := h'.even (.inr (by linarith))
  have hunit : (2 : ℚ) ^ e' = 2 * halfBelow m e * 2 ^ e := by linarith
  have hstep : (m : ℚ) * 2 ^ e = (m' + 1) * 2 ^ e' := by linarith
  unfold halfBelow at hunit
  split at hunit
  next hleast =>
    rw [hleast.1] at hstep
    have hodd : ((m' + 1 : ℕ) : ℚ) = ((2 * 2 ^ 52 : ℕ) : ℚ) := by
      refine mul_right_cancel₀ hpos'.ne' ?_
      push_cast at hstep ⊢
      linarith
    rw [Nat.cast_inj] at hodd
    obtain ⟨k, hk⟩ := heven'
    omega
  next =>
    have hsame : ((m' + 1 : ℕ) : ℚ) = m := by
      refine mul_right_cancel₀ hpos'.ne' ?_
      push_cast
      rw [← hstep, hunit]
      ring
    rw [Nat.cast_inj] at hsame
    obtain ⟨k, hk⟩ := heven
    obtain ⟨k', hk'⟩ := heven'
    omega

/-- A number is rounded to one float only. -/
theorem unique (h : RoundsTo q m e) (h' : RoundsTo q m' e') : m = m' ∧ e = e' :=
  h.canonical.eq_of_valueOf h'.canonical (le_antisymm (h.mono h' le_rfl) (h'.mono h le_rfl))

/-- No float is nearer than the one that a number is rounded to. -/
theorem nearest (h : RoundsTo q m e) (h' : Canonical m' e') :
    |valueOf m e - q| ≤ |valueOf m' e' - q| := by
  have hlower := h.lower
  have hupper := h.upper
  have hpos := two_zpow_pos e
  have hbelow := mul_pos (halfBelow_pos m e) hpos
  obtain hlt | heq | hgt := lt_trichotomy (valueOf m e) (valueOf m' e')
  · have hnext := h.canonical.next_le h' hlt
    refine le_trans (abs_le.2 ⟨?_, ?_⟩) (le_abs_self _) <;> unfold valueOf at * <;> linarith
  · rw [heq]
  · have hprevious := h.canonical.le_previous h' hgt
    refine le_trans (abs_le.2 ⟨?_, ?_⟩) (neg_le_abs _) <;> unfold valueOf at * <;> linarith

/-- The error is half a unit at most. -/
theorem abs_sub_le (h : RoundsTo q m e) : |valueOf m e - q| ≤ 1 / 2 * 2 ^ e := by
  have hlower := h.lower
  have hupper := h.upper
  have hbelow := mul_le_mul_of_nonneg_right (halfBelow_le m e) (two_zpow_pos e).le
  unfold valueOf
  exact abs_le.2 ⟨by linarith, by linarith⟩

/-- What lies between a number and the float that it is rounded to is rounded to that float. -/
theorem between (h : RoundsTo q m e)
    (hq : valueOf m e ≤ q' ∧ q' ≤ q ∨ q ≤ q' ∧ q' ≤ valueOf m e) : RoundsTo q' m e := by
  have hlower := h.lower
  have hupper := h.upper
  have hpos := two_zpow_pos e
  have hbelow := mul_pos (halfBelow_pos m e) hpos
  unfold valueOf at hq
  obtain ⟨hlow, hhigh⟩ | ⟨hlow, hhigh⟩ := hq
  · refine ⟨h.canonical, by linarith, by linarith, ?_⟩
    rintro (heq | heq)
    · linarith
    · exact h.even (.inr (by linarith))
  · refine ⟨h.canonical, by linarith, by linarith, ?_⟩
    rintro (heq | heq)
    · exact h.even (.inl (by linarith))
    · linarith

/-- Where the floats above and below are equally near, what is not farther from the float is rounded
to it, too. -/
theorem of_abs_le (h : RoundsTo q m e) (hhalf : halfBelow m e = 1 / 2)
    (hq : |q' - valueOf m e| ≤ |q - valueOf m e|) : RoundsTo q' m e := by
  have hlower := h.lower
  have hupper := h.upper
  have hpos := two_zpow_pos e
  have heven := h.even
  rw [hhalf] at hlower heven
  unfold valueOf at hq
  have habs : |q - m * 2 ^ e| ≤ 1 / 2 * 2 ^ e := abs_le.2 ⟨by linarith, by linarith⟩
  obtain ⟨hlow, hhigh⟩ := abs_le.1 (hq.trans habs)
  refine ⟨h.canonical, by rw [hhalf]; linarith, by linarith, fun hend => heven ?_⟩
  have hfar : 1 / 2 * 2 ^ e ≤ |q' - m * 2 ^ e| := by
    rw [hhalf] at hend
    obtain heq | heq := hend
    · exact le_trans (by linarith) (neg_le_abs _)
    · exact le_trans (by linarith) (le_abs_self _)
  obtain heq | heq := abs_eq_abs.1 (le_antisymm habs (hfar.trans hq) |>.trans
    (abs_of_pos (by linarith : 0 < 1 / 2 * (2 : ℚ) ^ e)).symm)
  · exact .inr (by linarith)
  · exact .inl (by linarith)

end RoundsTo

end Spreadsheet.Decimal
