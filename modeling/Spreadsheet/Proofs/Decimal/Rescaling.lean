import Spreadsheet.Decimal.Rounding
import Spreadsheet.Proofs.Decimal.Powers

/-!
# Whole numbers that are scaled and scaled back

A number is scaled and rounded to a whole number `n`.  This is scaled back and
then scaled again (`ThereAndBack`).  Each time the nearest float is taken, so `n`
need not come back.

If another whole number comes, it makes no difference: it is scaled back to the
same float (`ThereAndBack.roundsTo_of_whole`).  It is not farther from the scaled
float than `n`, and that decides the matter unless the float is a power of two,
which has the floats below it nearer than those above.  Such a float does not lie
between the two whole numbers (`ThereAndBack.not_straddle`).

Otherwise the number that comes back is off by less than one (`ThereAndBack.near`,
`ThereAndBack.unit_lt`).  It is rounded to `n` again unless it lies beyond `n` on
the side that rounding moves away from it (`Rounding.Passes`).  Then the next whole
number is taken, which is scaled back to another float.  Both together are
`ThereAndBack.roundsTo_iff`.
-/

namespace Spreadsheet.Decimal

variable {mode : Rounding} {m m' n k : ℕ} {e e' : ℤ} {q q' κ : ℚ}

/-! ## Rounding to whole numbers -/

namespace Rounding

/-- The whole number that a number is rounded to, both without their signs. -/
def whole (q : ℚ) : Rounding → ℕ
  | .nearest => ⌊q + 1 / 2⌋₊
  | .up => ⌈q⌉₊
  | .down => ⌊q⌋₊

/-- A number that is not whole is rounded to the whole number after or before `n`, although it is
next to `n`.  From `2 ^ 51` on a float that is not whole is in the middle of two whole numbers. -/
def Passes (n q : ℚ) (mode : Rounding) : Prop :=
  (∀ k : ℕ, q ≠ k) ∧
    match mode with
    | .nearest => 2 ^ 51 ≤ q ∧ n < q
    | .up => n < q
    | .down => q < n

@[simp] theorem whole_natCast (mode : Rounding) (k : ℕ) : mode.whole k = k := by
  cases mode with
  | nearest =>
    refine (Nat.floor_eq_iff (by positivity)).2 ⟨?_, ?_⟩ <;> linarith
  | up => exact Nat.ceil_natCast k
  | down => exact Nat.floor_natCast k

theorem whole_mono (mode : Rounding) (h : q ≤ q') : mode.whole q ≤ mode.whole q' := by
  cases mode with
  | nearest => exact Nat.floor_mono (by linarith)
  | up => exact Nat.ceil_mono h
  | down => exact Nat.floor_mono h

/-- A number near to `n` is rounded to `n` unless it passes it. -/
theorem whole_eq_iff (hq : 0 ≤ q) (hwhole : ∀ k : ℕ, q ≠ k) (hnear : |q - n| < 1)
    (hsmall : q < 2 ^ 51 → |q - n| < 1 / 2) (hlarge : 2 ^ 51 ≤ q → ∃ j : ℕ, q = j + 1 / 2) :
    mode.whole q = n ↔ ¬ mode.Passes n q := by
  obtain ⟨hlow, hhigh⟩ := abs_lt.1 hnear
  have hpasses : mode.Passes n q ↔ match mode with
      | .nearest => 2 ^ 51 ≤ q ∧ n < q
      | .up => n < q
      | .down => q < n := and_iff_right hwhole
  rw [hpasses]
  cases mode with
  | nearest =>
    rw [not_and, not_lt, whole, Nat.floor_eq_iff (by positivity)]
    constructor
    · rintro ⟨hle, hlt⟩ hmiddle
      obtain ⟨j, rfl⟩ := hlarge hmiddle
      have hj : j + 1 < n + 1 := by exact_mod_cast (by linarith : (j : ℚ) + 1 < n + 1)
      have hcast : (j : ℚ) + 1 ≤ n := by exact_mod_cast Nat.lt_succ_iff.1 hj
      linarith
    · intro hle
      obtain hlt | hge := lt_or_ge q (2 ^ 51)
      · obtain ⟨hlow', hhigh'⟩ := abs_lt.1 (hsmall hlt)
        constructor <;> linarith
      · obtain ⟨j, rfl⟩ := hlarge hge
        have hj : n < j + 2 := by exact_mod_cast (by linarith : (n : ℚ) < j + 2)
        have hcast : (n : ℚ) ≤ j + 1 := by exact_mod_cast Nat.lt_succ_iff.1 hj
        have hle' := hle hge
        constructor <;> linarith
  | up =>
    rw [not_lt, whole]
    constructor
    · rintro rfl
      exact Nat.le_ceil q
    · intro hle
      refine le_antisymm (Nat.ceil_le.2 hle) ?_
      have hlt : ((n - 1 : ℤ) : ℚ) < q := by
        push_cast
        linarith
      have hceil : (n : ℤ) - 1 < ⌈q⌉₊ := by
        exact_mod_cast hlt.trans_le (Nat.le_ceil q)
      omega
  | down =>
    rw [not_lt, whole, Nat.floor_eq_iff hq]
    exact ⟨And.left, fun hle => ⟨hle, by linarith⟩⟩

end Rounding

/-! ## Whole floats -/

/-- A float with an exponent that is not negative is whole. -/
theorem exists_natCast (m : ℕ) (he : 0 ≤ e) : ∃ k : ℕ, valueOf m e = k := by
  obtain ⟨j, rfl⟩ := Int.eq_ofNat_of_zero_le he
  exact ⟨m * 2 ^ j, by rw [valueOf]; push_cast; rfl⟩

/-- What a float is rounded to is `2 ^ 52` at most, or the float is whole already. -/
theorem Canonical.whole_le_or (h : Canonical m e) (mode : Rounding) :
    mode.whole (valueOf m e) ≤ 2 ^ 52 ∨ (mode.whole (valueOf m e) : ℚ) = valueOf m e := by
  obtain he | he := lt_or_ge e 0
  · left
    have hlt := h.valueOf_lt (j := 52) (by omega)
    norm_num at hlt
    have hle : valueOf m e ≤ (2 ^ 52 : ℕ) := by exact_mod_cast hlt.le
    have hmono := mode.whole_mono hle
    rwa [Rounding.whole_natCast] at hmono
  · right
    obtain ⟨k, hk⟩ := exists_natCast m he
    rw [hk, Rounding.whole_natCast]

/-- From `2 ^ 51` on, a float that is not whole has one binary digit behind the point. -/
theorem Canonical.exists_add_half (h : Canonical m e) (hwhole : ∀ k : ℕ, valueOf m e ≠ k)
    (hlarge : 2 ^ 51 ≤ valueOf m e) : ∃ j : ℕ, valueOf m e = j + 1 / 2 := by
  have he : e = -1 := by
    obtain hlt | rfl | hgt := lt_trichotomy e (-1)
    · have hsmall := h.valueOf_lt (j := 51) (by omega)
      norm_num at hsmall hlarge
      linarith
    · rfl
    · obtain ⟨k, hk⟩ := exists_natCast m (show 0 ≤ e by omega)
      exact (hwhole k hk).elim
  subst he
  obtain ⟨j, rfl | rfl⟩ := Nat.even_or_odd' m
  · refine (hwhole j ?_).elim
    rw [valueOf, zpow_neg_one]
    push_cast
    ring
  · refine ⟨j, ?_⟩
    rw [valueOf, zpow_neg_one]
    push_cast
    ring

/-- A whole number is brought to a mantissa of full length. -/
theorem valueOf_full_length (hpos : 0 < n) (hlt : n < 2 ^ 53) :
    Canonical (n * 2 ^ (52 - n.log2)) (n.log2 - 52) ∧
      valueOf (n * 2 ^ (52 - n.log2)) (n.log2 - 52) = n := by
  obtain ⟨hlow, hhigh⟩ := full_length hpos hlt
  have hlog : n.log2 < 53 := (Nat.log2_lt hpos.ne').2 hlt
  have hexponent : (n.log2 : ℤ) - 52 = -((52 - n.log2 : ℕ) : ℤ) := by omega
  refine ⟨⟨hhigh, by omega, .inl hlow⟩, ?_⟩
  rw [valueOf, hexponent, zpow_neg, zpow_natCast]
  push_cast
  rw [mul_assoc, mul_inv_cancel₀ (by positivity), mul_one]

theorem canonical_zero : Canonical 0 (-1074) := ⟨by decide, le_refl _, .inr rfl⟩

/-- A whole number below `2 ^ 53` is a float. -/
theorem exists_canonical (hn : n < 2 ^ 53) : ∃ m e, Canonical m e ∧ valueOf m e = n := by
  obtain rfl | hpos := Nat.eq_zero_or_pos n
  · exact ⟨0, -1074, canonical_zero, by rw [valueOf_zero, Nat.cast_zero]⟩
  · exact ⟨_, _, valueOf_full_length hpos hn⟩

/-- What is rounded to a float not far above `2 ^ 52` units has no longer a mantissa if it is one unit
more. -/
theorem RoundsTo.mantissa_le (h : RoundsTo q m e) {u : ℚ} (hq : (2 ^ 52 + 1) * u ≤ q)
    (hvalue : valueOf m e ≤ (2 ^ 52 + 1 / 2) * u) : m ≤ 2 ^ 52 := by
  have hupper := h.upper
  have hpos := two_zpow_pos e
  unfold valueOf at hvalue
  have hunit : u ≤ 2 ^ e := by linarith
  have hlt : (m : ℚ) < 2 ^ 52 + 1 := by
    refine lt_of_mul_lt_mul_right ?_ hpos.le
    linarith
  exact Nat.lt_succ_iff.1 (by exact_mod_cast hlt)

theorem Canonical.eq_two_pow (h : Canonical m e) (hm : m ≤ 2 ^ 52) (hlarge : 2 ^ 52 < valueOf m e) :
    m = 2 ^ 52 := by
  refine le_antisymm hm (h.full.resolve_right ?_)
  rintro rfl
  have hcast : (m : ℚ) ≤ 2 ^ 52 := by exact_mod_cast hm
  have hle : valueOf m (-1074) ≤ 2 ^ 52 * 1 :=
    mul_le_mul hcast (zpow_le_one_of_nonpos₀ (by norm_num) (by norm_num)) (two_zpow_pos _).le
      (by norm_num)
  linarith

/-! ## Scaling -/

/-- Numbers are multiplied with a float that is one or more, or divided by it. -/
def IsScale (κ : ℚ) : Prop := ∃ m e, Factor m e ∧ (κ = valueOf m e ∨ κ = (valueOf m e)⁻¹)

theorem two_pow_mul_valueOf (m : ℕ) (e e' : ℤ) :
    valueOf (2 ^ 52) e * valueOf m e' = valueOf m (52 + e + e') := by
  rw [valueOf, valueOf, valueOf, zpow_add₀ (by norm_num), zpow_add₀ (by norm_num)]
  push_cast
  ring

/-- A number with the least mantissa of full length is multiplied without loss. -/
theorem Factor.two_pow_mul (h : Factor m e) (he : -1074 ≤ e') :
    RoundsTo (valueOf (2 ^ 52) e' * valueOf m e) m (52 + e' + e) := by
  have hlow := h.low
  have hcanonical : Canonical m (52 + e' + e) := ⟨h.canonical.lt, by omega, .inl h.full⟩
  rw [two_pow_mul_valueOf]
  exact hcanonical.roundsTo

theorem two_pow_units (e : ℤ) (κ : ℚ) : valueOf (2 ^ 52) e * κ = 2 ^ 52 * (κ * 2 ^ e) := by
  rw [valueOf]
  push_cast
  ring

theorem IsScale.pos (h : IsScale κ) : 0 < κ := by
  obtain ⟨m, e, hfactor, rfl | rfl⟩ := h
  · exact zero_lt_one.trans_le hfactor.one_le
  · exact inv_pos.2 (zero_lt_one.trans_le hfactor.one_le)

/-- The least float is small after scaling, too. -/
theorem IsScale.small (h : IsScale κ) : κ * 2 ^ (-1074 : ℤ) < 1 / 2 := by
  have hle : κ ≤ 2 ^ (1024 : ℤ) := by
    obtain ⟨m, e, hfactor, rfl | rfl⟩ := h
    · exact hfactor.lt_two_pow.le
    · exact (inv_le_one_of_one_le₀ hfactor.one_le).trans
        (one_le_zpow₀ (by norm_num) (by norm_num))
  calc
    κ * 2 ^ (-1074 : ℤ) ≤ 2 ^ (1024 : ℤ) * 2 ^ (-1074 : ℤ) :=
      mul_le_mul_of_nonneg_right hle (two_zpow_pos _).le
    _ = 2 ^ (-50 : ℤ) := by rw [← zpow_add₀ (by norm_num)]; rfl
    _ < 1 / 2 := by norm_num

/-- After scaling, the error of a rounded number is half a unit at most. -/
theorem RoundsTo.abs_scaled_le (h : RoundsTo (q / κ) m e) (hκ : 0 < κ) :
    |q - valueOf m e * κ| ≤ 1 / 2 * (κ * 2 ^ e) := by
  have hle := mul_le_mul_of_nonneg_left h.abs_sub_le hκ.le
  have hscaled : κ * |valueOf m e - q / κ| = |q - valueOf m e * κ| := by
    rw [← abs_of_pos hκ, ← abs_mul, abs_of_pos hκ, abs_sub_comm, mul_sub,
      mul_div_cancel₀ _ hκ.ne', mul_comm κ]
  rw [hscaled] at hle
  linarith

/-- A number is scaled and rounded to a whole one, which is scaled back and scaled again. -/
structure ThereAndBack (mode : Rounding) (κ : ℚ) (n m : ℕ) (e : ℤ) (m' : ℕ) (e' : ℤ) : Prop where
  /-- This is what numbers are scaled with. -/
  scale : IsScale κ
  /-- A float is scaled and then rounded to the whole number. -/
  there : ∃ m₀ e₀ m₁ e₁, Canonical m₀ e₀ ∧ RoundsTo (valueOf m₀ e₀ * κ) m₁ e₁ ∧
    mode.whole (valueOf m₁ e₁) = n
  /-- The whole number is scaled back. -/
  back : RoundsTo (n / κ) m e
  /-- The result is scaled again. -/
  again : RoundsTo (valueOf m e * κ) m' e'

namespace ThereAndBack

variable (h : ThereAndBack mode κ n m e m' e')
include h

/-- The whole number is a float. -/
theorem exists_canonical : ∃ m₁ e₁, Canonical m₁ e₁ ∧ valueOf m₁ e₁ = n := by
  obtain ⟨m₀, e₀, m₁, e₁, -, hround, rfl⟩ := h.there
  obtain hle | heq := hround.canonical.whole_le_or mode
  · exact Decimal.exists_canonical (by omega)
  · exact ⟨m₁, e₁, hround.canonical, heq.symm⟩

/-- What comes back is not farther from the scaled float than the whole number. -/
theorem again_le : |valueOf m' e' - valueOf m e * κ| ≤ |n - valueOf m e * κ| := by
  obtain ⟨m₁, e₁, hcanonical, hvalue⟩ := h.exists_canonical
  rw [← hvalue]
  exact h.again.nearest hcanonical

/-- What comes back is less than one unit off. -/
theorem near : |valueOf m' e' - n| ≤ κ * 2 ^ e := by
  have hagain := h.again_le
  have hback := h.back.abs_scaled_le h.scale.pos
  have htriangle := abs_sub_le (valueOf m' e') (valueOf m e * κ) n
  rw [abs_sub_comm (valueOf m e * κ)] at htriangle
  linarith

/-! ### Another whole number -/

section

variable (hm : m = 2 ^ 52) (hk : valueOf m' e' = k) (hlow : k < valueOf m e * κ)
  (hhigh : valueOf m e * κ < n)
include hm hk hlow hhigh

/-- The whole number is large where a smaller one comes back for a float between them that is a
power of two. -/
theorem lt_of_straddle : 2 ^ 52 < n := by
  have hlt : k + 1 ≤ n := by exact_mod_cast hlow.trans hhigh
  have hstep : (k : ℚ) + 1 ≤ n := by exact_mod_cast hlt
  have hagain := h.again_le
  have hback := h.back.abs_scaled_le h.scale.pos
  rw [hk, abs_of_neg (by linarith), abs_of_pos (by linarith)] at hagain
  rw [abs_of_pos (by linarith)] at hback
  have hunits := hm ▸ two_pow_units e κ
  have hlarge : (2 ^ 52 : ℚ) < n := by linarith
  exact_mod_cast hlarge

/-- So large a whole number was scaled from a float above that one, and is a power of two. -/
theorem exists_two_pow : ∃ e₁ : ℤ, -1074 ≤ e₁ ∧ valueOf (2 ^ 52) e₁ = n := by
  have hlarge := h.lt_of_straddle hm hk hlow hhigh
  obtain ⟨m₀, e₀, m₁, e₁, hsource, hround, hn⟩ := h.there
  have hvalue : valueOf m₁ e₁ = n := by
    obtain hle | heq := hround.canonical.whole_le_or mode
    · omega
    · rw [← heq, hn]
  have hlt : valueOf m e < valueOf m₀ e₀ := by
    by_contra hle
    have hmono := hround.mono h.again
      (mul_le_mul_of_nonneg_right (not_lt.1 hle) h.scale.pos.le)
    rw [hvalue, hk] at hmono
    linarith
  have hnext := mul_le_mul_of_nonneg_right (h.back.canonical.next_le hsource hlt) h.scale.pos.le
  have hback := h.back.abs_scaled_le h.scale.pos
  have hunits := hm ▸ two_pow_units e κ
  rw [abs_of_pos (by linarith), ← hvalue] at hback
  rw [hm] at hnext
  push_cast at hnext
  have hmantissa : m₁ ≤ 2 ^ 52 :=
    hround.mantissa_le (u := κ * 2 ^ e) (by linarith) (by linarith)
  have hleast := hround.canonical.eq_two_pow hmantissa (by rw [hvalue]; exact_mod_cast hlarge)
  exact ⟨e₁, hround.canonical.le, by rw [← hleast, hvalue]⟩

/-- A whole number that comes back does not lie on the other side of a float that is nearer to those
below it than to those above. -/
theorem not_straddle : False := by
  obtain ⟨e₁, hle, hvalue⟩ := h.exists_two_pow hm hk hlow hhigh
  subst hm
  -- powers of two are multiplied without loss
  obtain ⟨mp, ep, hfactor, rfl | rfl⟩ := h.scale
  · obtain ⟨rfl, rfl⟩ := h.again.unique (hfactor.two_pow_mul h.back.canonical.le)
    rw [← two_pow_mul_valueOf] at hk
    linarith
  · have hback := h.back
    rw [div_inv_eq_mul, ← hvalue] at hback
    obtain ⟨rfl, rfl⟩ := hback.unique (hfactor.two_pow_mul hle)
    rw [← two_pow_mul_valueOf, hvalue, mul_inv_cancel_right₀ (inv_pos.1 h.scale.pos).ne'] at hhigh
    exact lt_irrefl _ hhigh

end

/-- A whole number that comes back is scaled back to the same float. -/
theorem roundsTo_of_whole (hk : valueOf m' e' = k) : RoundsTo (k / κ) m e := by
  have hpos := h.scale.pos
  have hagain := h.again_le
  rw [hk] at hagain
  have hscale (j : ℕ) : |j / κ - valueOf m e| = |j - valueOf m e * κ| / κ := by
    rw [← abs_of_pos hpos, ← abs_div, abs_of_pos hpos, sub_div, mul_div_cancel_right₀ _ hpos.ne']
  have hnear : |k / κ - valueOf m e| ≤ |n / κ - valueOf m e| := by
    rw [hscale, hscale]
    exact div_le_div_of_nonneg_right hagain hpos.le
  obtain hhalf | hm := halfBelow_eq m e
  · exact h.back.of_abs_le hhalf hnear
  obtain hle | hlt := le_or_gt (valueOf m e) (k / κ)
  · -- above the float there is room for half a unit
    have hback := h.back.abs_sub_le
    rw [abs_sub_comm] at hback
    rw [abs_of_nonneg (sub_nonneg.2 hle)] at hnear
    have hbelow := mul_pos (halfBelow_pos m e) (two_zpow_pos e)
    unfold valueOf at hle hnear hback
    exact ⟨h.back.canonical, by linarith, by linarith,
      fun _ => hm ▸ even_two.pow_of_ne_zero (by decide)⟩
  obtain hle' | hlt' := le_or_gt (n / κ) (valueOf m e)
  · rw [abs_of_neg (sub_neg.2 hlt), abs_of_nonpos (sub_nonpos.2 hle')] at hnear
    exact h.back.between (.inr ⟨by linarith, hlt.le⟩)
  · exact (h.not_straddle hm hk ((div_lt_iff₀ hpos).1 hlt) ((lt_div_iff₀ hpos).1 hlt')).elim

/-! ### No whole number -/

/-- The unit is less than one where a number comes back that is not whole. -/
theorem unit_lt (hwhole : ∀ k : ℕ, valueOf m' e' ≠ k) :
    κ * 2 ^ e < 1 ∧ (valueOf m' e' < 2 ^ 51 → κ * 2 ^ e < 1 / 2) := by
  have hnegative : e' < 0 := by
    by_contra he
    obtain ⟨k, hk⟩ := exists_natCast m' (not_lt.1 he)
    exact hwhole k hk
  obtain hfull | rfl := h.back.canonical.full
  · have hpos := mul_pos h.scale.pos (two_zpow_pos e)
    have hupper := h.again.upper
    have hle : 2 ^ 52 * (κ * 2 ^ e) ≤ (m' + 1 / 2) * 2 ^ e' := by
      refine le_trans ?_ hupper
      rw [← two_pow_units]
      unfold valueOf
      exact mul_le_mul_of_nonneg_right
        (mul_le_mul_of_nonneg_right (by exact_mod_cast hfull) (two_zpow_pos e).le) h.scale.pos.le
    have hm : (m' : ℚ) + 1 ≤ 2 ^ 53 := by exact_mod_cast h.again.canonical.lt
    have hbound (k : ℤ) (he : e' ≤ k) :
        (m' + 1 / 2) * (2 : ℚ) ^ e' ≤ (2 ^ 53 - 1 / 2) * 2 ^ k :=
      mul_le_mul (by linarith) (zpow_le_zpow_right₀ (by norm_num) he) (two_zpow_pos _).le
        (by norm_num)
    refine ⟨?_, fun hsmall => ?_⟩
    · have hhalf := hbound (-1) (by omega)
      norm_num at hhalf hle ⊢
      linarith
    · -- with one binary digit behind the point the number would be larger
      have hdigits : e' ≤ -2 := by
        by_contra hlarge
        obtain rfl : e' = -1 := by omega
        have hfull' := h.again.canonical.full.resolve_right (by decide)
        have hcast : (2 : ℚ) ^ 52 ≤ m' := by exact_mod_cast hfull'
        rw [valueOf, zpow_neg_one] at hsmall
        linarith
      have hquarter := hbound (-2) hdigits
      norm_num at hquarter hle ⊢
      linarith
  · have hsmall := h.scale.small
    exact ⟨by linarith, fun _ => hsmall⟩

/-- A whole number that is scaled back to the same float is the same, if the unit is less than
one. -/
theorem eq_of_roundsTo (hunit : κ * 2 ^ e < 1) (hk : RoundsTo (k / κ) m e) : k = n := by
  have hback := h.back.abs_scaled_le h.scale.pos
  have hother := hk.abs_scaled_le h.scale.pos
  rw [abs_sub_comm] at hback
  have hlt : |((k - n : ℤ) : ℚ)| < 1 := by
    push_cast
    linarith [abs_sub_le (k : ℚ) (valueOf m e * κ) n]
  have hzero : (k : ℤ) - n = 0 := Int.abs_lt_one_iff.1 (by exact_mod_cast hlt)
  omega

/-- A whole number that is scaled back without loss is not passed. -/
theorem not_passes_of_exact (hexact : valueOf m e * κ = n) :
    ¬ mode.Passes n (valueOf m' e') := by
  obtain ⟨m₁, e₁, hcanonical, hvalue⟩ := h.exists_canonical
  have hround := hcanonical.roundsTo
  rw [hvalue, ← hexact] at hround
  obtain ⟨rfl, rfl⟩ := h.again.unique hround
  exact fun hpasses => hpasses.1 n hvalue

/-- The nearest whole number is not passed as long as there are two binary digits behind the
point. -/
theorem not_passes_nearest (hn : n < 2 ^ 51) :
    ¬ Rounding.nearest.Passes n (valueOf m' e') := by
  rintro ⟨hwhole, hlarge, -⟩
  obtain ⟨-, hhigh⟩ := abs_lt.1 (h.near.trans_lt (h.unit_lt hwhole).1)
  have hle : (n : ℚ) + 1 ≤ 2 ^ 51 := by exact_mod_cast hn
  linarith

/-- The whole number that comes back is scaled back to the same float, unless the number that was
scaled again passes the first one. -/
theorem roundsTo_iff :
    RoundsTo (mode.whole (valueOf m' e') / κ) m e ↔ ¬ mode.Passes n (valueOf m' e') := by
  by_cases hwhole : ∃ k : ℕ, valueOf m' e' = k
  · obtain ⟨k, hk⟩ := hwhole
    rw [hk, Rounding.whole_natCast]
    exact iff_of_true (h.roundsTo_of_whole hk) fun hpasses => hpasses.1 k rfl
  · rw [not_exists] at hwhole
    obtain ⟨hunit, hsmall⟩ := h.unit_lt hwhole
    have hnonneg : 0 ≤ valueOf m' e' := mul_nonneg (Nat.cast_nonneg m') (two_zpow_pos e').le
    rw [← Rounding.whole_eq_iff hnonneg hwhole (h.near.trans_lt hunit)
      (fun hlt => h.near.trans_lt (hsmall hlt)) (h.again.canonical.exists_add_half hwhole)]
    constructor
    · exact h.eq_of_roundsTo hunit
    · intro heq
      rw [heq]
      exact h.back

end ThereAndBack

end Spreadsheet.Decimal
