import Spreadsheet.Decimal.Power
import Spreadsheet.Proofs.Decimal.Products

/-!
# Powers of ten

A product that is rounded is at most one part in `2 ^ 52` too large.  With one such
part for every factor ten a power of ten stays below its bound, whatever the order
of the multiplications is (`NearPower.mul`).  So none of those that move the point
is too large for a float or less than one (`power_ten`).
-/

namespace Spreadsheet.Decimal

variable {m m' i j a b n bits : ℕ} {e e' : ℤ} {q : ℚ} {x y base acc : Float}

/-- The parts of a finite float that is one or more. -/
structure Factor (m : ℕ) (e : ℤ) : Prop where
  /-- These are the parts of a float. -/
  canonical : Canonical m e
  /-- The mantissa has all its bits. -/
  full : 2 ^ 52 ≤ m
  /-- The float is not less than one. -/
  low : -52 ≤ e
  /-- The float is not infinite. -/
  high : e ≤ 971

theorem factor_one : Factor (2 ^ 52) (-52) :=
  ⟨⟨by decide, by decide, .inl le_rfl⟩, le_rfl, le_rfl, by decide⟩

theorem valueOf_one : valueOf (2 ^ 52) (-52) = 1 := by
  norm_num [valueOf]

theorem Factor.one_le (h : Factor m e) : 1 ≤ valueOf m e := by
  have hle := le_valueOf (j := 0) (e := e) h.full (by have := h.low; omega)
  rwa [zpow_zero] at hle

theorem Factor.lt_two_pow (h : Factor m e) : valueOf m e < 2 ^ (1024 : ℤ) :=
  h.canonical.valueOf_lt (by have := h.high; omega)

/-- A float that is one or more, and not too large, has such parts. -/
theorem Canonical.factor (h : Canonical m e) (hlow : 1 ≤ valueOf m e)
    (hhigh : valueOf m e < 2 ^ (1024 : ℤ)) : Factor m e := by
  have hexponent : -52 ≤ e := by
    by_contra hlt
    have hsmall := h.valueOf_lt (j := 0) (by omega)
    rw [zpow_zero] at hsmall
    linarith
  have hfull : 2 ^ 52 ≤ m := h.full.resolve_right (by omega)
  refine ⟨h, hfull, hexponent, ?_⟩
  by_contra hlt
  have hlarge := le_valueOf (j := 1024) (e := e) hfull (by omega)
  linarith

/-- A rounded number with a mantissa of full length is at most one part in `2 ^ 52` too large. -/
theorem RoundsTo.le_slack (h : RoundsTo q m e) (hfull : 2 ^ 52 ≤ m) :
    valueOf m e ≤ (1 + 1 / 2 ^ 52) * q := by
  have hpos := two_zpow_pos e
  have hcast : (2 : ℚ) ^ 52 * 2 ^ e ≤ valueOf m e :=
    mul_le_mul_of_nonneg_right (by exact_mod_cast hfull) hpos.le
  have hlower := h.lower
  have hbelow := mul_le_mul_of_nonneg_right (halfBelow_le m e) hpos.le
  rw [sub_mul] at hlower
  unfold valueOf at hcast ⊢
  norm_num at hcast ⊢
  linarith

/-- A float that is one or more is at most a power of ten that is too large by one part in `2 ^ 52`
for every factor, and one part less. -/
def NearPower (j : ℕ) (x : Float) : Prop :=
  ∃ m e, Factor m e ∧ x = floatOf .positive m e ∧
    (1 + 1 / 2 ^ 52) * valueOf m e ≤ ((1 + 1 / 2 ^ 52) * 10) ^ j

theorem nearPower_ten : NearPower 1 10.0 := by
  refine ⟨5629499534213120, -49, ⟨⟨by decide, by decide, .inl (by decide)⟩, by decide, by decide,
    by decide⟩, rfl, ?_⟩
  norm_num [valueOf]

/-- One is the first factor of a power. -/
theorem NearPower.one_mul_eq (h : NearPower j x) : 1.0 * x = x := by
  obtain ⟨m, e, hfactor, rfl, -⟩ := h
  obtain ⟨m', e', hround, hmul⟩ := floatOf_mul .positive factor_one.canonical factor_one.high
    hfactor.canonical hfactor.high hfactor.full
  rw [valueOf_one, one_mul] at hround
  obtain ⟨rfl, rfl⟩ := hfactor.canonical.roundsTo.unique hround
  exact hmul

/-- The bound of the greatest power is not too large for a float. -/
theorem pow_lt_two_pow (hj : j ≤ 308) :
    ((1 + 1 / 2 ^ 52) * 10 : ℚ) ^ j < 2 ^ (1024 : ℤ) :=
  calc
    ((1 + 1 / 2 ^ 52) * 10 : ℚ) ^ j ≤ ((1 + 1 / 2 ^ 52) * 10) ^ (77 * 4) :=
      pow_le_pow_right₀ (by norm_num) hj
    _ = (((1 + 1 / 2 ^ 52) * 10) ^ 77) ^ 4 := pow_mul _ 77 4
    _ < (2 ^ 256) ^ 4 := pow_lt_pow_left₀ (by norm_num) (by positivity) (by decide)
    _ = 2 ^ (1024 : ℤ) := by rw [← pow_mul, ← zpow_natCast]; rfl

/-- The parts that a product is too large by are no more than those of its factors. -/
theorem NearPower.mul (hx : NearPower i x) (hy : NearPower j y) (h : i + j ≤ 308) :
    NearPower (i + j) (x * y) := by
  obtain ⟨m, e, hm, rfl, hi⟩ := hx
  obtain ⟨m', e', hm', rfl, hj⟩ := hy
  obtain ⟨m'', e'', hround, hmul⟩ := floatOf_mul .positive hm.canonical hm.high hm'.canonical
    hm'.high hm'.full
  have hone := one_le_mul_of_one_le_of_one_le hm.one_le hm'.one_le
  have hlow : 1 ≤ valueOf m'' e'' := by
    rw [← valueOf_one] at hone ⊢
    exact factor_one.canonical.roundsTo.mono hround hone
  have hfull : 2 ^ 52 ≤ m'' := by
    refine hround.canonical.full.resolve_right fun hleast => ?_
    have hsmall := hround.canonical.valueOf_lt (j := 0) (by omega)
    rw [zpow_zero] at hsmall
    linarith
  have hbound : (1 + 1 / 2 ^ 52) * valueOf m'' e'' ≤ ((1 + 1 / 2 ^ 52) * 10) ^ (i + j) :=
    calc
      (1 + 1 / 2 ^ 52) * valueOf m'' e''
        ≤ (1 + 1 / 2 ^ 52) * ((1 + 1 / 2 ^ 52) * (valueOf m e * valueOf m' e')) :=
          mul_le_mul_of_nonneg_left (hround.le_slack hfull) (by norm_num)
      _ = (1 + 1 / 2 ^ 52) * valueOf m e * ((1 + 1 / 2 ^ 52) * valueOf m' e') := by ring
      _ ≤ ((1 + 1 / 2 ^ 52) * 10) ^ i * ((1 + 1 / 2 ^ 52) * 10) ^ j :=
          mul_le_mul hi hj (mul_nonneg (by norm_num) (zero_le_one.trans hm'.one_le)) (by positivity)
      _ = ((1 + 1 / 2 ^ 52) * 10) ^ (i + j) := (pow_add _ i j).symm
  have hhigh : valueOf m'' e'' < 2 ^ (1024 : ℤ) :=
    (le_mul_of_one_le_left (by linarith) (by norm_num)).trans_lt
      (hbound.trans_lt (pow_lt_two_pow h))
  exact ⟨m'', e'', hround.canonical.factor hlow hhigh, hmul, hbound⟩

/-- Repeated squaring gives a product with as many factors as the exponents add up to. -/
theorem nearPower_powerFrom (hbase : NearPower b base)
    (hacc : a = 0 ∧ acc = 1.0 ∨ NearPower a acc) (hn : 0 < n) (hbits : n < 2 ^ bits)
    (h : a + b * n ≤ 308) : NearPower (a + b * n) (powerFrom bits base n acc) := by
  induction bits generalizing a b n base acc with
  | zero => omega
  | succ bits ih =>
    have hproduct : a + b ≤ 308 → NearPower (a + b) (acc * base) := by
      intro hle
      obtain ⟨rfl, rfl⟩ | hacc := hacc
      · rw [hbase.one_mul_eq, Nat.zero_add]
        exact hbase
      · exact hacc.mul hbase hle
    have hparts : a + b * n = a + b * (n % 2) + (b + b) * (n / 2) := by
      conv_lhs => rw [← Nat.mod_add_div n 2]
      ring
    rw [powerFrom, if_neg hn.ne']
    dsimp only
    obtain hone | hmore := Nat.eq_zero_or_pos (n / 2)
    · obtain rfl : n = 1 := by omega
      rw [if_pos hone, if_pos rfl, Nat.mul_one]
      exact hproduct (by omega)
    · rw [if_neg hmore.ne', hparts]
      rw [hparts] at h
      have hsquare : b + b ≤ (b + b) * (n / 2) := Nat.le_mul_of_pos_right _ hmore
      refine ih (hbase.mul hbase (by omega)) ?_ hmore (by omega) h
      obtain heven | hodd := Nat.mod_two_eq_zero_or_one n
      · rw [if_neg (by omega), heven, Nat.mul_zero, Nat.add_zero]
        exact hacc
      · rw [if_pos hodd, hodd, Nat.mul_one]
        exact .inr (hproduct (by rw [hodd] at h; omega))

/-- A power of ten that moves the point is a finite float that is one or more. -/
theorem power_ten (hj : j ≤ 308) :
    ∃ m e, Factor m e ∧ power 10.0 j = floatOf .positive m e := by
  obtain rfl | hpos := Nat.eq_zero_or_pos j
  · exact ⟨_, _, factor_one, rfl⟩
  · obtain ⟨m, e, hfactor, heq, -⟩ := nearPower_powerFrom nearPower_ten (.inl ⟨rfl, rfl⟩) hpos
      Nat.lt_log2_self (by omega)
    exact ⟨m, e, hfactor, heq⟩

end Spreadsheet.Decimal
