import Spreadsheet.Proofs.Decimal.Nearest
import Spreadsheet.Proofs.Decimal.Zeros

/-!
# Products and quotients

The product of two floats is computed exactly and then rounded, and so is the
quotient.  On the way the digits that are dropped from a mantissa leave two bits
behind that tell where the exact number lies.  What one shift preserves
(`Describes.shiftRightOne`) all of them preserve (`Describes.shiftRight`), and
the rounded mantissa is the nearest one (`Describes.isNearest`).  So the result has
the parts that the exact number is rounded to (`floatOf_mul`, `floatOf_div`).
-/

namespace Spreadsheet.Decimal

open Float.Model UnpackedFloat

variable {em : ExtendedMantissa} {m m' : ℕ} {e e' : ℤ} {q : ℚ}

/-! ## Dropped digits -/

/-- A mantissa and the bits behind it tell where a number lies. -/
def Describes (em : ExtendedMantissa) (q : ℚ) : Prop :=
  match em.roundBit, em.stickyBit with
  | false, false => q = em.mantissa
  | false, true => em.mantissa < q ∧ q < em.mantissa + 1 / 2
  | true, false => q = em.mantissa + 1 / 2
  | true, true => em.mantissa + 1 / 2 < q ∧ q < em.mantissa + 1

theorem Describes.bounds (h : Describes em q) : em.mantissa ≤ q ∧ q < em.mantissa + 1 := by
  unfold Describes at h
  split at h <;> constructor <;> linarith

/-- A digit that is dropped is kept in the bits. -/
theorem Describes.shiftRightOne (h : Describes em q) : Describes em.shiftRightOne (q / 2) := by
  obtain ⟨m, round, sticky⟩ := em
  obtain ⟨k, hk | hk⟩ := Nat.even_or_odd' m
  · have hdiv : m / 2 = k := by omega
    have hmod : (m % 2 != 0) = false := by simp [hk]
    have hcast : (m : ℚ) = 2 * k := by exact_mod_cast hk
    simp only [ExtendedMantissa.shiftRightOne, hdiv, hmod]
    cases round <;> cases sticky <;> simp only [Describes, Bool.or_false, Bool.or_true] at h ⊢ <;>
      rw [hcast] at h <;> first | (constructor <;> linarith) | linarith
  · have hdiv : m / 2 = k := by omega
    have hmod : (m % 2 != 0) = true := by simp [hk, Nat.add_mod]
    have hcast : (m : ℚ) = 2 * k + 1 := by exact_mod_cast hk
    simp only [ExtendedMantissa.shiftRightOne, hdiv, hmod]
    cases round <;> cases sticky <;> simp only [Describes, Bool.or_false, Bool.or_true] at h ⊢ <;>
      rw [hcast] at h <;> first | (constructor <;> linarith) | linarith

/-- All digits that are dropped are kept in the bits. -/
theorem Describes.shiftRight (h : Describes em q) (k : ℕ) : Describes (em >>> k) (q / 2 ^ k) := by
  change Describes (k.repeat ExtendedMantissa.shiftRightOne em) _
  induction k with
  | zero => rwa [Nat.repeat, pow_zero, div_one]
  | succ k ih =>
    rw [Nat.repeat, pow_succ, ← div_div]
    exact ih.shiftRightOne

/-- A whole number is nearest to a number, and of two such it is even. -/
def IsNearest (q : ℚ) (r : ℕ) : Prop :=
  r - 1 / 2 ≤ q ∧ q ≤ r + 1 / 2 ∧ (q = r - 1 / 2 ∨ q = r + 1 / 2 → Even r)

/-- The bits decide which whole number is nearest. -/
theorem Describes.isNearest (h : Describes em q) :
    IsNearest q em.roundedMantissa ∧
      em.mantissa ≤ em.roundedMantissa ∧ em.roundedMantissa ≤ em.mantissa + 1 := by
  obtain ⟨m, round, sticky⟩ := em
  cases round <;> cases sticky <;> simp only [Describes] at h
  · have hr : (ExtendedMantissa.mk m false false).roundedMantissa = m := rfl
    rw [hr]
    refine ⟨⟨by linarith, by linarith, ?_⟩, by simp⟩
    rintro (heq | heq) <;> linarith
  · have hr : (ExtendedMantissa.mk m false true).roundedMantissa = m := rfl
    rw [hr]
    refine ⟨⟨by linarith, by linarith, ?_⟩, by simp⟩
    rintro (heq | heq) <;> linarith
  · have hr : (ExtendedMantissa.mk m true false).roundedMantissa = m + m % 2 := rfl
    have hlow : (0 : ℚ) ≤ (m % 2 : ℕ) := Nat.cast_nonneg _
    have hhigh : ((m % 2 : ℕ) : ℚ) ≤ 1 := by
      exact_mod_cast Nat.lt_succ_iff.1 (Nat.mod_lt m two_pos)
    have heven : Even (m + m % 2) := Nat.even_iff.2 (by omega)
    rw [hr, IsNearest, Nat.cast_add]
    exact ⟨⟨by linarith, by linarith, fun _ => heven⟩, by dsimp only; omega⟩
  · have hr : (ExtendedMantissa.mk m true true).roundedMantissa = m + 1 := rfl
    rw [hr, IsNearest, Nat.cast_add, Nat.cast_one]
    refine ⟨⟨by linarith, by linarith, ?_⟩, by simp⟩
    rintro (heq | heq) <;> linarith

/-! ## Rounding -/

/-- The unpacked number with a sign, a mantissa and an exponent. -/
def partsOf (s : Sign) (m : ℕ) (e : ℤ) : UnpackedFloat :=
  if h : m = 0 then .zero s else .finite s m e (Nat.pos_of_ne_zero h)

/-- A mantissa that is in bounds stays as it is. -/
theorem shiftToTargetExponent_of_lt (hm : m < 2 ^ 53) (he : -1074 ≤ e) :
    shiftToTargetExponent Format.binary64 m e .exact = (⟨m, false, false⟩, e) := by
  have hlog : m.log2 ≤ 52 := by
    obtain rfl | hpos := Nat.eq_zero_or_pos m
    · decide
    · exact Nat.lt_succ_iff.1 ((Nat.log2_lt hpos.ne').2 hm)
  have hshift : (Format.binary64.targetExponent (totalExponent m e) - e).toNat = 0 := by
    rw [targetExponent_binary64, totalExponent]
    omega
  unfold shiftToTargetExponent shiftToExponent
  dsimp only
  rw [hshift]
  exact congrArg (Prod.mk _) (add_zero e)

/-- A mantissa that has become too large by one is halved. -/
theorem shiftToTargetExponent_of_eq (he : -1074 ≤ e) :
    shiftToTargetExponent Format.binary64 (2 ^ 53) e .exact = (⟨2 ^ 52, false, false⟩, e + 1) := by
  have hshift : (Format.binary64.targetExponent (totalExponent (2 ^ 53) e) - e).toNat = 1 := by
    rw [targetExponent_binary64, totalExponent, Nat.log2_two_pow]
    omega
  unfold shiftToTargetExponent shiftToExponent
  dsimp only
  rw [hshift]
  rfl

/-- Rounding can be done in units of the last bit. -/
theorem RoundsTo.of_units (h : Canonical m e) (hlower : m - halfBelow m e ≤ q)
    (hupper : q ≤ m + 1 / 2) (heven : q = m - halfBelow m e ∨ q = m + 1 / 2 → Even m) :
    RoundsTo (q * 2 ^ e) m e where
  canonical := h
  lower := mul_le_mul_of_nonneg_right hlower (two_zpow_pos e).le
  upper := mul_le_mul_of_nonneg_right hupper (two_zpow_pos e).le
  even hend := heven (hend.imp (mul_right_cancel₀ (two_zpow_pos e).ne')
    (mul_right_cancel₀ (two_zpow_pos e).ne'))

/-- The nearest mantissa, halved if it has become too large, belongs to the nearest float. -/
theorem roundsTo_of_isNearest {r : ℕ} (hr : IsNearest q r) (hle : r ≤ 2 ^ 53)
    (he : -1074 ≤ e) (hfull : e = -1074 ∨ 2 ^ 52 ≤ r ∧ 2 ^ 52 ≤ q) :
    ∃ m' e', RoundsTo (q * 2 ^ e) m' e' ∧
      (shiftToTargetExponent Format.binary64 r e .exact).1.mantissa = m' ∧
      (shiftToTargetExponent Format.binary64 r e .exact).2 = e' := by
  obtain ⟨hlower, hupper, heven⟩ := hr
  obtain hlt | rfl := Nat.lt_or_eq_of_le hle
  · rw [shiftToTargetExponent_of_lt hlt he]
    have hcanonical : Canonical r e := ⟨hlt, he, hfull.symm.imp And.left id⟩
    have hbelow : halfBelow r e = 1 / 2 ∨ (r : ℚ) ≤ q := by
      unfold halfBelow
      split
      next hleast =>
        right
        rw [hleast.1]
        exact_mod_cast (hfull.resolve_left hleast.2.ne').2
      next => exact .inl rfl
    refine ⟨r, e, .of_units hcanonical ?_ hupper ?_, rfl, rfl⟩
    · obtain hhalf | hle := hbelow
      · rwa [hhalf]
      · linarith [halfBelow_pos r e]
    · obtain hhalf | hle := hbelow
      · rwa [hhalf]
      · rintro (heq | heq)
        · linarith [halfBelow_pos r e]
        · exact heven (.inr heq)
  · -- the number is just below the power of two that it is rounded to
    rw [shiftToTargetExponent_of_eq he]
    have hbelow : halfBelow (2 ^ 52) (e + 1) = 1 / 4 := if_pos ⟨rfl, by omega⟩
    have hunits : q * 2 ^ e = q / 2 * 2 ^ (e + 1) := by
      rw [zpow_add_one₀ (by norm_num)]
      ring
    rw [hunits]
    push_cast at hlower hupper
    refine ⟨2 ^ 52, e + 1, .of_units ⟨by decide, by omega, .inl le_rfl⟩ ?_ ?_ fun _ => ?_, rfl, rfl⟩
    · rw [hbelow]
      push_cast
      linarith
    · push_cast
      linarith
    · exact (even_two).pow_of_ne_zero (by decide)

/-- A number that is known to the last bit is rounded to the nearest float. -/
theorem roundWithAccuracy_eq (s : Sign) {acc : Accuracy}
    (hq : Describes (ExtendedMantissa.ofMantissaAndAccuracy m acc) (q / 2 ^ e))
    (hm : 52 ≤ m.log2 ∨ e ≤ -1074) :
    ∃ m' e', RoundsTo q m' e' ∧
      roundWithAccuracy Format.binary64 s m e acc = partsOf s m' e' := by
  obtain ⟨k, hk⟩ : ∃ k, (Format.binary64.targetExponent (totalExponent m e) - e).toNat = k :=
    ⟨_, rfl⟩
  have hfirst : shiftToTargetExponent Format.binary64 m e acc =
      (ExtendedMantissa.ofMantissaAndAccuracy m acc >>> k, e + k) := by
    unfold shiftToTargetExponent shiftToExponent
    dsimp only
    rw [hk]
  have hdescribes := hq.shiftRight k
  have hmantissa := shiftRight_mantissa (ExtendedMantissa.ofMantissaAndAccuracy m acc) k
  rw [ofMantissaAndAccuracy_mantissa] at hmantissa
  generalize ExtendedMantissa.ofMantissaAndAccuracy m acc >>> k = em at hfirst hdescribes hmantissa
  obtain ⟨hnearest, hlow, hhigh⟩ := hdescribes.isNearest
  rw [targetExponent_binary64, totalExponent] at hk
  have hsmall : em.mantissa < 2 ^ 53 := by
    rw [hmantissa, Nat.div_lt_iff_lt_mul (Nat.two_pow_pos k), ← Nat.pow_add]
    exact Nat.lt_log2_self.trans_le (Nat.pow_le_pow_right two_pos (by omega))
  have hfull : e + k = -1074 ∨ 2 ^ 52 ≤ em.mantissa := by
    obtain heq | hne := eq_or_ne (e + k) (-1074)
    · exact .inl heq
    · right
      have hlog : m.log2 = 52 + k := by omega
      have hpos : m ≠ 0 := by
        rintro rfl
        rw [Nat.log2_zero] at hlog
        omega
      rw [hmantissa, Nat.le_div_iff_mul_le (Nat.two_pow_pos k), ← Nat.pow_add, ← hlog]
      exact Nat.log2_self_le hpos
  have hexact : q / 2 ^ e / 2 ^ k * 2 ^ (e + k) = q := by
    rw [zpow_add₀ (by norm_num), zpow_natCast, div_div, div_mul_cancel₀]
    exact mul_ne_zero (two_zpow_pos e).ne' (by positivity)
  obtain ⟨m', e', hround, hm', he'⟩ := roundsTo_of_isNearest hnearest (e := e + k) (by omega)
    (by omega) (hfull.imp id fun h => ⟨h.trans hlow, le_trans (by exact_mod_cast h)
      hdescribes.bounds.1⟩)
  rw [hexact] at hround
  refine ⟨m', e', hround, ?_⟩
  unfold roundWithAccuracy
  rw [hfirst]
  dsimp only
  rw [hm', he']
  rfl

/-! ## Floats from parts -/

/-- The float with a sign, a mantissa and an exponent, infinite if the exponent is too large. -/
def floatOf (s : Sign) (m : ℕ) (e : ℤ) : Float := .ofModel (pack (partsOf s m e))

variable {x : Float} {s s' : Sign}

/-- A mantissa that is not full is packed without loss. -/
theorem unpack_pack_of_lt (s : Sign) (hm : 0 < m) (hlt : m < 2 ^ 52) :
    (pack (.finite s m (-1074) hm)).unpack = .finite s m (-1074) hm := by
  have hlog : m.log2 < 52 := (Nat.log2_lt hm.ne').2 hlt
  have hmantissa : (BitVec.ofNat 52 m).toNat = m := by
    rw [BitVec.toNat_ofNat, Nat.mod_eq_of_lt hlt]
  have hne : BitVec.ofNat 52 m ≠ 0#52 := by
    intro hzero
    rw [hzero] at hmantissa
    exact hm.ne hmantissa
  change UnpackedFloat.unpack Format.binary64 (UnpackedFloat.pack Format.binary64 _) = _
  unfold UnpackedFloat.pack
  extract_lets digits biased
  rw [if_neg (by change ¬ 2 ^ 11 ≤ (-1074 + (1023 : Nat) + (52 : Nat) : ℤ).toNat + 1; decide),
    if_neg (by change ¬ m.log2 + 1 = 53; omega)]
  unfold UnpackedFloat.unpack
  dsimp only
  rw [unpackExponent_packComponents, ofBitVec_unpackSign_packComponents, if_neg (by decide),
    if_pos rfl, dif_neg (by rw [unpackMantissa_packComponents]; exact hne), finite.injEq,
    unpackMantissa_packComponents]
  exact ⟨rfl, hmantissa, rfl⟩

/-- Parts of a finite float come back. -/
theorem unpack_floatOf (s : Sign) (h : Canonical m e) (he : e ≤ 971) :
    (floatOf s m e).toModel.unpack = partsOf s m e := by
  change (pack (partsOf s m e)).unpack = _
  unfold partsOf
  split
  next => cases s <;> rfl
  next hm =>
    obtain hfull | hleast := h.full
    · exact unpack_pack s _ hfull h.lt h.le he
    · obtain hfull | hlt := le_or_gt (2 ^ 52) m
      · exact unpack_pack s _ hfull h.lt h.le he
      · subst hleast
        exact unpack_pack_of_lt s _ hlt

theorem isFinite_partsOf (s : Sign) (m : ℕ) (e : ℤ) : (partsOf s m e).isFinite = true := by
  unfold partsOf
  split <;> rfl

/-- A number that is too large is packed as an infinite one. -/
theorem unpack_floatOf_of_large (s : Sign) (h : Canonical m e) (he : 971 < e) :
    (floatOf s m e).toModel.unpack = .infinity s := by
  have hfull := h.full.resolve_right (by omega)
  change UnpackedFloat.unpack Format.binary64 (UnpackedFloat.pack Format.binary64 _) = _
  rw [partsOf, dif_neg (by omega), UnpackedFloat.pack,
    if_pos (by change 2 ^ 11 ≤ (e + (1023 : Nat) + (52 : Nat)).toNat + 1; omega)]
  cases s <;> rfl

theorem isFinite_floatOf (s : Sign) (h : Canonical m e) :
    (floatOf s m e).isFinite = true ↔ e ≤ 971 := by
  change (floatOf s m e).toModel.unpack.isFinite = true ↔ e ≤ 971
  constructor
  · intro hfinite
    by_contra hlarge
    rw [unpack_floatOf_of_large s h (not_le.1 hlarge)] at hfinite
    cases hfinite
  · intro he
    rw [unpack_floatOf s h he]
    exact isFinite_partsOf s m e

/-- What bits are unpacked to has canonical parts if it is finite. -/
theorem exists_partsOf (b : BitVec Format.binary64.numBits)
    (h : (UnpackedFloat.unpack Format.binary64 b).isFinite = true) :
    ∃ s m e, Canonical m e ∧ e ≤ 971 ∧ UnpackedFloat.unpack Format.binary64 b = partsOf s m e := by
  revert h
  unfold UnpackedFloat.unpack
  extract_lets mantissa exponent e bit sign
  intro h
  have he : e = (exponent.toNat : Int) - 1075 := rfl
  clear_value e
  split at h
  next => split at h <;> cases h
  next hlast =>
    rw [if_neg hlast]
    split
    next hfirst =>
      split
      next => exact ⟨sign, 0, -1074, ⟨by decide, by decide, .inr rfl⟩, by decide, rfl⟩
      next hne =>
        have hmantissa : mantissa.toNat ≠ 0 := fun hzero => hne (BitVec.eq_of_toNat_eq hzero)
        have hlt : mantissa.toNat < 2 ^ 52 := mantissa.isLt
        have hzero : exponent.toNat = 0 := congrArg BitVec.toNat hfirst
        refine ⟨sign, mantissa.toNat, e + 1, ⟨by omega, by omega, .inr (by omega)⟩, by omega, ?_⟩
        rw [partsOf, dif_neg hmantissa]
    next hfirst =>
      have hlt : (1#1 ++ mantissa).toNat < 2 ^ 53 := (1#1 ++ mantissa).isLt
      have hfull : 2 ^ 52 ≤ (1#1 ++ mantissa).toNat := by
        rw [BitVec.toNat_append, ← Nat.shiftLeft_add_eq_or_of_lt mantissa.isLt]
        exact Nat.le_add_right _ _
      have hpositive : exponent.toNat ≠ 0 := fun h => hfirst (BitVec.eq_of_toNat_eq h)
      have hsmall : exponent.toNat ≠ 2047 := fun h => hlast (BitVec.eq_of_toNat_eq h)
      have hbits : exponent.toNat < 2 ^ 11 := exponent.isLt
      refine ⟨sign, _, e, ⟨hlt, by omega, .inl hfull⟩, by omega, ?_⟩
      rw [partsOf, dif_neg (by omega)]

/-- Every finite float has parts. -/
theorem exists_floatOf (h : x.isFinite = true) :
    ∃ s m e, Canonical m e ∧ e ≤ 971 ∧ x = floatOf s m e := by
  obtain ⟨s, m, e, hcanonical, he, hunpack⟩ := exists_partsOf x.toModel.toBits.toBitVec h
  refine ⟨s, m, e, hcanonical, he, eq_of_toModel ?_⟩
  rw [← pack_unpack_toModel x]
  exact congrArg pack hunpack

/-- Finite floats with different parts are different. -/
theorem floatOf_inj (h : Canonical m e) (he : e ≤ 971) (h' : Canonical m' e')
    (heq : floatOf s m e = floatOf s' m' e') : m = m' ∧ e = e' := by
  have he' : e' ≤ 971 := by
    rw [← isFinite_floatOf s' h', ← heq, isFinite_floatOf s h]
    exact he
  have hparts : partsOf s m e = partsOf s' m' e' := by
    rw [← unpack_floatOf s h he, ← unpack_floatOf s' h' he', heq]
  unfold partsOf at hparts
  split at hparts <;> split at hparts
  next hm hm' =>
    have hle := h.full.resolve_left (by omega)
    have hle' := h'.full.resolve_left (by omega)
    exact ⟨hm.trans hm'.symm, hle.trans hle'.symm⟩
  next => cases hparts
  next => cases hparts
  next =>
    rw [finite.injEq] at hparts
    exact hparts.2

/-! ## Arithmetic -/

/-- Zero is rounded to zero. -/
theorem roundsTo_zero : RoundsTo 0 0 (-1074) := by
  have hzero : Canonical 0 (-1074) := ⟨by decide, le_refl _, .inr rfl⟩
  have hround := hzero.roundsTo
  rwa [valueOf_zero] at hround

theorem toModel_div (x y : Float) : (x / y).toModel =
    pack (UnpackedFloat.div Format.binary64 x.toModel.unpack y.toModel.unpack) := rfl

/-- A quotient has a whole part and a rest less than one. -/
theorem quotient_eq_add (a : ℕ) {b : ℕ} (hb : 0 < b) :
    (a : ℚ) / b = (a / b : ℕ) + (a % b : ℕ) / b ∧ ((a % b : ℕ) : ℚ) / b < 1 := by
  have hpos : (0 : ℚ) < b := Nat.cast_pos.2 hb
  constructor
  · rw [div_eq_iff hpos.ne', add_mul, div_mul_cancel₀ _ hpos.ne']
    exact_mod_cast (Nat.div_add_mod' a b).symm
  · exact (div_lt_one hpos).2 (by exact_mod_cast Nat.mod_lt a hb)

/-- The remainder of a division tells where the quotient lies. -/
theorem describes_quotient (a : ℕ) {b : ℕ} (hb : 0 < b) :
    Describes (ExtendedMantissa.ofMantissaAndAccuracy (a / b) (accuracyOfFraction (a % b) b))
      (a / b) := by
  have hpos : (0 : ℚ) < b := Nat.cast_pos.2 hb
  obtain ⟨hquotient, hhigh⟩ := quotient_eq_add a hb
  generalize a / b = quotient at hquotient ⊢
  generalize a % b = rest at hquotient hhigh ⊢
  rw [hquotient]
  unfold accuracyOfFraction
  split
  next hzero =>
    change (quotient : ℚ) + rest / b = quotient
    rw [hzero, Nat.cast_zero, zero_div, add_zero]
  next hne =>
    have hrest : (0 : ℚ) < rest := Nat.cast_pos.2 (Nat.pos_of_ne_zero hne)
    have hlow : (0 : ℚ) < rest / b := div_pos hrest hpos
    obtain hcompare | hcompare | hcompare := lt_trichotomy (2 * rest) b
    · have hhalf : (rest : ℚ) / b < 1 / 2 := by
        rw [div_lt_div_iff₀ hpos two_pos]
        have hcast : (2 : ℚ) * rest < b := by exact_mod_cast hcompare
        linarith
      rw [Nat.compare_eq_lt.2 hcompare]
      change (quotient : ℚ) < quotient + rest / b ∧ (quotient : ℚ) + rest / b < quotient + 1 / 2
      constructor <;> linarith
    · have hhalf : (rest : ℚ) / b = 1 / 2 := by
        rw [div_eq_div_iff hpos.ne' two_ne_zero]
        have hcast : (2 : ℚ) * rest = b := by exact_mod_cast hcompare
        linarith
      rw [Nat.compare_eq_eq.2 hcompare]
      change (quotient : ℚ) + rest / b = quotient + 1 / 2
      rw [hhalf]
    · have hhalf : 1 / 2 < (rest : ℚ) / b := by
        rw [div_lt_div_iff₀ two_pos hpos]
        have hcast : (b : ℚ) < 2 * rest := by exact_mod_cast hcompare
        linarith
      rw [Nat.compare_eq_gt.2 hcompare]
      change (quotient : ℚ) + 1 / 2 < quotient + rest / b ∧ (quotient : ℚ) + rest / b < quotient + 1
      constructor <;> linarith

/-- A quotient is computed to as many digits as a mantissa has, or to the least exponent. -/
theorem divCore_describes (hm : 0 < m) (hm' : 0 < m') (e e' : ℤ) :
    ∃ digits exponent acc, divCore Format.binary64 m e m' e' = (digits, exponent, acc) ∧
      Describes (ExtendedMantissa.ofMantissaAndAccuracy digits acc)
        (valueOf m e / valueOf m' e' / 2 ^ exponent) ∧
      (52 ≤ digits.log2 ∨ exponent ≤ -1074) := by
  obtain ⟨exponent, hexponent⟩ : ∃ t, min (e - e')
      (Format.binary64.targetExponent (totalExponent m e - totalExponent m' e')) = t := ⟨_, rfl⟩
  obtain ⟨k, hk⟩ : ∃ k, (e - e' - exponent).toNat = k := ⟨_, rfl⟩
  have hcore : divCore Format.binary64 m e m' e' =
      (m * 2 ^ k / m', exponent, accuracyOfFraction (m * 2 ^ k % m') m') := by
    unfold divCore
    dsimp only
    rw [hexponent, hk, Nat.shiftLeft_eq]
  refine ⟨_, _, _, hcore, ?_, ?_⟩
  · have hquotient : valueOf m e / valueOf m' e' / 2 ^ exponent = (m * 2 ^ k : ℕ) / m' := by
      have hpow : (2 : ℚ) ^ e = 2 ^ k * 2 ^ exponent * 2 ^ e' := by
        rw [← zpow_natCast, ← zpow_add₀ (by norm_num), ← zpow_add₀ (by norm_num)]
        congr 1
        omega
      have hne : (m' : ℚ) ≠ 0 := Nat.cast_ne_zero.2 hm'.ne'
      have hleft := (two_zpow_pos exponent).ne'
      have hright := (two_zpow_pos e').ne'
      rw [valueOf, valueOf, hpow]
      push_cast
      field_simp
    rw [hquotient]
    exact describes_quotient _ hm'
  · rw [targetExponent_binary64, totalExponent, totalExponent] at hexponent
    by_cases hsmall : exponent ≤ -1074
    · exact .inr hsmall
    · left
      have hshift : m'.log2 + 1 + 52 ≤ m.log2 + k := by omega
      have hfull : 2 ^ 52 ≤ m * 2 ^ k / m' := by
        rw [Nat.le_div_iff_mul_le hm']
        calc
          2 ^ 52 * m' ≤ 2 ^ 52 * 2 ^ (m'.log2 + 1) := Nat.mul_le_mul_left _ Nat.lt_log2_self.le
          _ = 2 ^ (m'.log2 + 1 + 52) := by rw [← Nat.pow_add, Nat.add_comm]
          _ ≤ 2 ^ (m.log2 + k) := Nat.pow_le_pow_right two_pos hshift
          _ = 2 ^ m.log2 * 2 ^ k := Nat.pow_add ..
          _ ≤ m * 2 ^ k := Nat.mul_le_mul_right _ (Nat.log2_self_le hm.ne')
      exact (Nat.le_log2 (by omega)).2 hfull

section

variable (s : Sign) (h : Canonical m e) (he : e ≤ 971) (h' : Canonical m' e') (he' : e' ≤ 971)
  (hfull : 2 ^ 52 ≤ m')
include h he h' he' hfull

/-- The product of a float and a number of full length is the nearest one. -/
theorem floatOf_mul : ∃ m'' e'', RoundsTo (valueOf m e * valueOf m' e') m'' e'' ∧
    floatOf s m e * floatOf .positive m' e' = floatOf s m'' e'' := by
  have hsign : s * .positive = s := by cases s <;> rfl
  have hunpack : partsOf .positive m' e' = .finite .positive m' e' (by omega) := dif_neg (by omega)
  obtain rfl | hm := Nat.eq_zero_or_pos m
  · refine ⟨0, -1074, by rw [valueOf_zero, zero_mul]; exact roundsTo_zero, eq_of_toModel ?_⟩
    rw [toModel_mul, unpack_floatOf s h he, unpack_floatOf _ h' he', hunpack]
    change pack (.zero (s * .positive)) = pack (.zero s)
    rw [hsign]
  · have hexact : Describes (ExtendedMantissa.ofMantissaAndAccuracy (m * m') .exact)
        (valueOf m e * valueOf m' e' / 2 ^ (e + e')) := by
      change valueOf m e * valueOf m' e' / 2 ^ (e + e') = (m * m' : ℕ)
      rw [div_eq_iff (two_zpow_pos _).ne', valueOf, valueOf, zpow_add₀ (by norm_num)]
      push_cast
      ring
    have hlog : 52 ≤ (m * m').log2 :=
      (Nat.le_log2 (by positivity)).2 (hfull.trans (Nat.le_mul_of_pos_left m' hm))
    obtain ⟨m'', e'', hround, heq⟩ := roundWithAccuracy_eq s hexact (.inl hlog)
    refine ⟨m'', e'', hround, eq_of_toModel ?_⟩
    rw [toModel_mul, unpack_floatOf s h he, unpack_floatOf _ h' he', hunpack, partsOf,
      dif_neg hm.ne']
    change pack (roundWithAccuracy Format.binary64 (s * .positive) (m * m') (e + e') .exact) = _
    rw [hsign, heq]
    rfl

/-- The quotient of a float and a number of full length is the nearest one. -/
theorem floatOf_div : ∃ m'' e'', RoundsTo (valueOf m e / valueOf m' e') m'' e'' ∧
    floatOf s m e / floatOf .positive m' e' = floatOf s m'' e'' := by
  have hsign : s / .positive = s := by cases s <;> rfl
  have hunpack : partsOf .positive m' e' = .finite .positive m' e' (by omega) := dif_neg (by omega)
  obtain rfl | hm := Nat.eq_zero_or_pos m
  · refine ⟨0, -1074, by rw [valueOf_zero, zero_div]; exact roundsTo_zero, eq_of_toModel ?_⟩
    rw [toModel_div, unpack_floatOf s h he, unpack_floatOf _ h' he', hunpack]
    change pack (.zero (s / .positive)) = pack (.zero s)
    rw [hsign]
  · obtain ⟨digits, exponent, acc, hcore, hdescribes, hlog⟩ :=
      divCore_describes hm (show 0 < m' by omega) e e'
    obtain ⟨m'', e'', hround, heq⟩ := roundWithAccuracy_eq s hdescribes hlog
    refine ⟨m'', e'', hround, eq_of_toModel ?_⟩
    rw [toModel_div, unpack_floatOf s h he, unpack_floatOf _ h' he', hunpack, partsOf,
      dif_neg hm.ne', UnpackedFloat.div, hcore]
    change pack (roundWithAccuracy Format.binary64 (s / .positive) digits exponent acc) = _
    rw [hsign, heq]
    rfl

end

end Spreadsheet.Decimal
