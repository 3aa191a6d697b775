import Spreadsheet.Proofs.Decimal.Order
import Spreadsheet.Proofs.Decimal.Shifts

/-!
# Whole numbers divided

A whole number below `2 ^ 53` is a float, and its quotient is the float nearest to the
exact one (`exists_divided`).  Quotients by the same number are in the order of what
is divided (`not_divided_lt`), and two of them that are equal are the same
float (`divided_eq`).  Where what is divided has less than 51 binary digits, the product
with the divisor is nearer to it than to any other whole number
(`toSigned64_divided_mul`).
-/

namespace Spreadsheet.Decimal

open Float.Model UnpackedFloat

variable {s s' : Sign} {m m' n : ℕ} {e e' i j k l : ℤ} {q : ℚ}

/-! ## Floats by their parts -/

/-- Units count the value of a float. -/
theorem valueOf_eq_units (h : Canonical m e) : valueOf m e = units m e * 2 ^ (-1074 : ℤ) := by
  rw [valueOf_eq_mul m h.le, units, sub_neg_eq_add]

theorem units_le_iff (h : Canonical m e) (h' : Canonical m' e') :
    units m e ≤ units m' e' ↔ valueOf m e ≤ valueOf m' e' := by
  rw [valueOf_eq_units h, valueOf_eq_units h', mul_le_mul_iff_left₀ (two_zpow_pos _), Nat.cast_le]

/-- Finite floats are ordered by their units with their signs. -/
theorem floatOf_lt_iff (h : Canonical m e) (he : e ≤ 971) (h' : Canonical m' e') (he' : e' ≤ 971) :
    floatOf s m e < floatOf s' m' e' ↔ s.apply (units m e) < s'.apply (units m' e') := by
  rw [lt_iff_compare, unpack_floatOf s h he, unpack_floatOf s' h' he', compare_partsOf h h',
    Option.some_inj, compare_lt_iff_lt]

theorem abs_floatOf (s : Sign) (h : Canonical m e) (he : e ≤ 971) :
    (floatOf s m e).abs = floatOf .positive m e := by
  refine eq_of_toModel ?_
  change pack (floatOf s m e).toModel.unpack.abs = pack (partsOf .positive m e)
  rw [unpack_floatOf s h he]
  unfold partsOf
  split <;> rfl

/-- A number that is rounded has no greater exponent than a power of two above it. -/
theorem RoundsTo.of_le_two_zpow (h : RoundsTo q m e) (hj : -1022 ≤ j) (hq : q ≤ 2 ^ j) :
    valueOf m e ≤ 2 ^ j ∧ e ≤ j - 52 := by
  have hpower : valueOf (2 ^ 52) (j - 52) = 2 ^ j := by
    rw [valueOf, Nat.cast_pow, Nat.cast_ofNat, ← zpow_natCast, ← zpow_add₀ (by norm_num)]
    congr 1
    omega
  have hcanonical : Canonical (2 ^ 52) (j - 52) := ⟨by decide, by omega, .inl le_rfl⟩
  have hround := hcanonical.roundsTo
  rw [hpower] at hround
  have hle := h.mono hround hq
  rw [hpower] at hle
  refine ⟨hle, ?_⟩
  by_contra hlarge
  have hfull := h.canonical.full.resolve_right (by omega)
  have hgreat : (2 : ℚ) ^ (j + 1) ≤ valueOf m e := le_valueOf hfull (by omega)
  have hpos := two_zpow_pos j
  rw [zpow_add_one₀ (by norm_num)] at hgreat
  linarith

theorem RoundsTo.abs_sub_le_two_zpow (h : RoundsTo q m e) (hj : -1022 ≤ j) (hq : q ≤ 2 ^ j) :
    |valueOf m e - q| ≤ 1 / 2 * 2 ^ (j - 52) :=
  h.abs_sub_le.trans (mul_le_mul_of_nonneg_left
    (zpow_le_zpow_right₀ (by norm_num) (h.of_le_two_zpow hj hq).2) (by norm_num))

/-- A quotient that is rounded, and its product with the divisor that is rounded again, are off by so
little that the nearest whole number is the one that was divided. -/
theorem RoundsTo.whole_mul {d : ℚ} {m₁ : ℕ} {e₁ : ℤ} (h : RoundsTo (n / d) m e)
    (h₁ : RoundsTo (valueOf m e * d) m₁ e₁) (hpos : 0 < d) (hi : 0 ≤ i) (hj : 0 ≤ j)
    (hij : i + j ≤ 50) (hq : n / d ≤ 2 ^ i) (hd : d ≤ 2 ^ j) :
    e₁ ≤ 0 ∧ Rounding.nearest.whole (valueOf m₁ e₁) = n := by
  have hproduct : valueOf m e * d ≤ 2 ^ (i + j) := by
    rw [zpow_add₀ (by norm_num)]
    exact mul_le_mul (h.of_le_two_zpow (by omega) hq).1 hd hpos.le (two_zpow_pos i).le
  have hunit : (2 : ℚ) ^ (i + j - 52) ≤ 2 ^ (-2 : ℤ) :=
    zpow_le_zpow_right₀ (by norm_num) (by omega)
  norm_num at hunit
  have herror : |valueOf m e * d - n| ≤ 1 / 8 :=
    calc
      |valueOf m e * d - n| = |valueOf m e - n / d| * d := by
        rw [← abs_of_pos hpos, ← abs_mul, sub_mul, abs_of_pos hpos, div_mul_cancel₀ _ hpos.ne']
      _ ≤ 1 / 2 * 2 ^ (i - 52) * 2 ^ j :=
        mul_le_mul (h.abs_sub_le_two_zpow (by omega) hq) hd hpos.le (by positivity)
      _ = 1 / 2 * 2 ^ (i + j - 52) := by
        rw [mul_assoc, ← zpow_add₀ (by norm_num), show i - 52 + j = i + j - 52 by omega]
      _ ≤ 1 / 8 := by linarith
  have herror₁ : |valueOf m₁ e₁ - valueOf m e * d| ≤ 1 / 8 :=
    (h₁.abs_sub_le_two_zpow (by omega) hproduct).trans (by linarith)
  obtain ⟨hlow, hhigh⟩ := abs_le.1 herror
  obtain ⟨hlow₁, hhigh₁⟩ := abs_le.1 herror₁
  have hnonneg : (0 : ℚ) ≤ n := Nat.cast_nonneg _
  have hexponent := (h₁.of_le_two_zpow (by omega) hproduct).2
  exact ⟨by omega, (Nat.floor_eq_iff (by linarith)).2 ⟨by linarith, by linarith⟩⟩

/-- A number with its sign comes back from its float. -/
theorem toSigned64_floatOf (s : Sign) (h : Canonical m e) (hvalue : valueOf m e = n)
    (hn : n < 2 ^ 53) : toSigned64 (floatOf s m e) = s.apply n := by
  obtain ⟨m', e', hcanonical, -, hvalue', heq⟩ := signed_ofNat s hn
  obtain ⟨rfl, rfl⟩ := h.eq_of_valueOf hcanonical (hvalue.trans hvalue'.symm)
  obtain ⟨b, hshape, hnegative, hwhole, -⟩ := shape_signed_ofNat (isNegative s) hn
  rw [← heq, toSigned64_of_small (whole?_eq_some.2 ⟨b, hshape, rfl⟩) (by split <;> omega), hnegative,
    hwhole]
  cases s <;> rfl

/-! ## Whole numbers with their signs -/

theorem negative_apply (a : ℤ) : Sign.negative.apply a = -a := rfl

theorem positive_apply (a : ℤ) : Sign.positive.apply a = a := rfl

/-- The sign of a whole number. -/
def signOf (k : ℤ) : Sign := if k < 0 then .negative else .positive

theorem signOf_of_neg (h : k < 0) : signOf k = .negative := if_pos h

theorem signOf_of_nonneg (h : 0 ≤ k) : signOf k = .positive := if_neg (not_lt.2 h)

theorem signOf_apply (k : ℤ) : (signOf k).apply k.natAbs = k := by
  obtain hk | hk := lt_or_ge k 0
  · rw [signOf_of_neg hk, negative_apply]
    omega
  · rw [signOf_of_nonneg hk, positive_apply]
    omega

theorem ofInt_eq (k : ℤ) : Float.ofInt k = signed (isNegative (signOf k)) (Float.ofNat k.natAbs) := by
  cases k with
  | ofNat n =>
    rw [Int.ofNat_eq_natCast, signOf_of_nonneg (Int.natCast_nonneg n)]
    rfl
  | negSucc n =>
    rw [signOf_of_neg (Int.negSucc_lt_zero n)]
    rfl

/-! ## Quotients -/

section

variable (hd : Factor m' e')
include hd

/-- A float that is not less than one has such a value. -/
theorem one_le_valueOf : 1 ≤ valueOf m' e' := by
  have hle := le_valueOf (e := e') (j := 0) hd.full (by have := hd.low; omega)
  rwa [zpow_zero] at hle

/-- A whole number divided by a float that is not less than one is rounded once. -/
theorem exists_divided (hk : k.natAbs < 2 ^ 53) :
    ∃ m e, RoundsTo (k.natAbs / valueOf m' e') m e ∧ e ≤ 971 ∧ (0 < k.natAbs → 0 < m) ∧
      Float.ofInt k / floatOf .positive m' e' = floatOf (signOf k) m e := by
  obtain ⟨m, e, hcanonical, he, hvalue, heq⟩ := signed_ofNat (signOf k) hk
  obtain ⟨m'', e'', hround, hdiv⟩ :=
    floatOf_div (signOf k) hcanonical he hd.canonical hd.high hd.full
  rw [hvalue] at hround
  have hone := one_le_valueOf hd
  have hsmall : (k.natAbs : ℚ) / valueOf m' e' ≤ 2 ^ (53 : ℤ) := by
    refine (div_le_self (Nat.cast_nonneg _) hone).trans ?_
    exact_mod_cast hk.le
  have hexponent := (hround.of_le_two_zpow (by decide) hsmall).2
  refine ⟨m'', e'', hround, by omega, fun hpos => Nat.pos_of_ne_zero ?_, by rw [ofInt_eq, heq, hdiv]⟩
  rintro rfl
  have hleast := hround.canonical.full.resolve_left (by decide)
  have hupper := hround.upper
  have hlarge := hd.canonical.valueOf_lt (j := 1024) (by have := hd.high; omega)
  rw [hleast, div_le_iff₀ (by linarith), Nat.cast_zero, zero_add, mul_assoc] at hupper
  have hproduct : (2 : ℚ) ^ (-1074 : ℤ) * valueOf m' e' < 1 :=
    calc
      (2 : ℚ) ^ (-1074 : ℤ) * valueOf m' e' < 2 ^ (-1074 : ℤ) * 2 ^ (1024 : ℤ) :=
        mul_lt_mul_of_pos_left hlarge (two_zpow_pos _)
      _ = 2 ^ (-50 : ℤ) := (zpow_add₀ (by norm_num) _ _).symm
      _ < 1 := by norm_num
  have hcast : (1 : ℚ) ≤ k.natAbs := by exact_mod_cast hpos
  linarith

/-- Quotients are in the order of what is divided. -/
theorem not_divided_lt (hk : k.natAbs < 2 ^ 53) (hl : l.natAbs < 2 ^ 53) (hle : k ≤ l) :
    ¬ Float.ofInt l / floatOf .positive m' e' < Float.ofInt k / floatOf .positive m' e' := by
  obtain ⟨m₁, e₁, hround₁, he₁, -, heq₁⟩ := exists_divided hd hk
  obtain ⟨m₂, e₂, hround₂, he₂, -, heq₂⟩ := exists_divided hd hl
  have hone := one_le_valueOf hd
  have hmono {a b : ℕ} (h : a ≤ b) : (a : ℚ) / valueOf m' e' ≤ b / valueOf m' e' :=
    div_le_div_of_nonneg_right (Nat.cast_le.2 h) (by linarith)
  rw [heq₁, heq₂, floatOf_lt_iff hround₂.canonical he₂ hround₁.canonical he₁, not_lt]
  obtain hneg | hnonneg := lt_or_ge l 0
  · rw [signOf_of_neg hneg, signOf_of_neg (by omega), negative_apply, negative_apply,
      neg_le_neg_iff, Int.ofNat_le, units_le_iff hround₂.canonical hround₁.canonical]
    exact hround₂.mono hround₁ (hmono (by omega))
  · obtain hneg' | hnonneg' := lt_or_ge k 0
    · rw [signOf_of_neg hneg', signOf_of_nonneg hnonneg, negative_apply, positive_apply]
      omega
    · rw [signOf_of_nonneg hnonneg', signOf_of_nonneg hnonneg, positive_apply, positive_apply,
        Int.ofNat_le, units_le_iff hround₁.canonical hround₂.canonical]
      exact hround₁.mono hround₂ (hmono (by omega))

/-- Quotients that are equal are the same float. -/
theorem divided_eq (hk : k.natAbs < 2 ^ 53) (hl : l.natAbs < 2 ^ 53) (hle : k ≤ l)
    (hnot : ¬ Float.ofInt k / floatOf .positive m' e' < Float.ofInt l / floatOf .positive m' e') :
    Float.ofInt k / floatOf .positive m' e' = Float.ofInt l / floatOf .positive m' e' := by
  have hother := not_divided_lt hd hk hl hle
  obtain ⟨m₁, e₁, hround₁, he₁, hpos₁, heq₁⟩ := exists_divided hd hk
  obtain ⟨m₂, e₂, hround₂, he₂, -, heq₂⟩ := exists_divided hd hl
  rw [heq₁, heq₂, floatOf_lt_iff hround₂.canonical he₂ hround₁.canonical he₁] at hother
  rw [heq₁, heq₂, floatOf_lt_iff hround₁.canonical he₁ hround₂.canonical he₂] at hnot
  rw [heq₁, heq₂]
  have hunits := le_antisymm (not_lt.1 hnot) (not_lt.1 hother)
  have hsame (h : units m₁ e₁ = units m₂ e₂) : m₁ = m₂ ∧ e₁ = e₂ := by
    refine hround₁.canonical.eq_of_valueOf hround₂.canonical (le_antisymm ?_ ?_)
    · exact (units_le_iff hround₁.canonical hround₂.canonical).1 h.le
    · exact (units_le_iff hround₂.canonical hround₁.canonical).1 h.ge
  obtain hneg | hnonneg := lt_or_ge l 0
  · rw [signOf_of_neg hneg, signOf_of_neg (by omega), negative_apply, negative_apply] at hunits
    obtain ⟨rfl, rfl⟩ := hsame (by omega)
    rw [signOf_of_neg hneg, signOf_of_neg (by omega)]
  · obtain hneg' | hnonneg' := lt_or_ge k 0
    · -- a negative quotient is not rounded to zero
      have hpos := units_pos (hpos₁ (by omega)) e₁
      rw [signOf_of_neg hneg', signOf_of_nonneg hnonneg, negative_apply, positive_apply] at hunits
      omega
    · rw [signOf_of_nonneg hnonneg', signOf_of_nonneg hnonneg, positive_apply,
        positive_apply] at hunits
      obtain ⟨rfl, rfl⟩ := hsame (by omega)
      rw [signOf_of_nonneg hnonneg', signOf_of_nonneg hnonneg]

/-- The product with the divisor is nearest to what was divided. -/
theorem toSigned64_divided_mul (hi : 0 ≤ i) (hj : 0 ≤ j) (hij : i + j ≤ 50)
    (hq : k.natAbs / valueOf m' e' ≤ 2 ^ i) (hm' : valueOf m' e' ≤ 2 ^ j) :
    toSigned64 (nearest (Float.ofInt k / floatOf .positive m' e' * floatOf .positive m' e')) = k := by
  have hpos : 0 < valueOf m' e' := zero_lt_one.trans_le (one_le_valueOf hd)
  have hsmall : (k.natAbs : ℚ) ≤ 2 ^ (50 : ℤ) :=
    calc
      (k.natAbs : ℚ) ≤ 2 ^ i * valueOf m' e' := (div_le_iff₀ hpos).1 hq
      _ ≤ 2 ^ i * 2 ^ j := mul_le_mul_of_nonneg_left hm' (two_zpow_pos i).le
      _ = 2 ^ (i + j) := (zpow_add₀ (by norm_num) i j).symm
      _ ≤ 2 ^ (50 : ℤ) := zpow_le_zpow_right₀ (by norm_num) hij
  have hk : k.natAbs < 2 ^ 53 := by
    have hcast : (k.natAbs : ℚ) < (2 ^ 53 : ℕ) := hsmall.trans_lt (by norm_num)
    exact_mod_cast hcast
  obtain ⟨m, e, hround, he, -, hdivided⟩ := exists_divided hd hk
  obtain ⟨m₁, e₁, hround₁, hmul⟩ :=
    floatOf_mul (signOf k) hround.canonical he hd.canonical hd.high hd.full
  obtain ⟨he₁, hwhole⟩ := hround.whole_mul hround₁ hpos hi hj hij hq hm'
  obtain ⟨m₂, e₂, hcanonical₂, -, hvalue₂, hnearest⟩ :=
    apply_floatOf .nearest (signOf k) hround₁.canonical (by omega)
  change nearest _ = _ at hnearest
  rw [hwhole] at hvalue₂
  rw [hdivided, hmul, hnearest, toSigned64_floatOf (signOf k) hcanonical₂ hvalue₂ hk, signOf_apply]

end

end Spreadsheet.Decimal
