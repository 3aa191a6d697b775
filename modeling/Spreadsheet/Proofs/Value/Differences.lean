import Mathlib
import Spreadsheet.Proofs.Value.Defined

/-!
# Where a difference lies

The difference of two floats is rounded, so it says little about the exact one.
What it keeps is the side of zero: it is below zero just when the first number
is below the second, and zero just when they are equal (`side?_difference`).
Two steps could lose that.

* Rounding could give zero for a number that is not (`normalize_bounded`).  It
  does not, since a sum or a difference has no finer unit than its parts, and no
  float has a finer one than the least positive number.
* Packing could give zero or NaN for a number that is neither (`side?_pack`).
  It gives an infinite number at worst, on the same side.

The *height* of a number is its multiple of the least positive one.  The two
infinite numbers are above and below all others.  The one case without a side is
that of the same infinite number twice, whose difference is NaN.
-/

namespace Spreadsheet

open Float.Model UnpackedFloat

/-! ## Sides -/

/-- A number that a float can have: with a mantissa and an exponent in their bounds. -/
def Bounded : UnpackedFloat → Prop
  | .finite _ m e _ => m < 2 ^ 53 ∧ -1074 ≤ e
  | _ => True

/-- Where a number lies, seen from zero.  NaN lies nowhere. -/
def side? (u : UnpackedFloat) : Option Ordering := u.compare (.zero .positive)

/-- Where the numbers with a sign lie. -/
def sideOf : Sign → Ordering
  | .negative => .lt
  | .positive => .gt

theorem side?_infinity (s : Sign) : side? (.infinity s) = some (sideOf s) := by
  cases s <;> rfl

theorem side?_finite (s : Sign) (m : Nat) (e : Int) (hm : 0 < m) :
    side? (.finite s m e hm) = some (sideOf s) := by
  cases s <;> rfl

section

variable (s : Sign) (exponent : BitVec Format.binary64.exponentBits)
  (mantissa : BitVec Format.binary64.mantissaBitsWithoutImplicit)

theorem ofBitVec_unpackSign_packComponents :
    Sign.ofBitVec (unpackSign (packComponents Format.binary64 s exponent mantissa)) = s := by
  have hsign : unpackSign (packComponents Format.binary64 s exponent mantissa) = s.toBitVec := by
    change (s.toBitVec ++ exponent ++ mantissa).extractLsb' 63 1 = s.toBitVec
    rw [BitVec.extractLsb'_append_eq_of_le (by decide),
      BitVec.extractLsb'_append_eq_of_le (by decide)]
    exact BitVec.extractLsb'_eq_self
  rw [hsign]
  cases s <;> rfl

/-- What the bits of a number other than NaN and zero stand for lies on the side of the sign. -/
theorem side?_packComponents (hlast : exponent = -1#_ → mantissa = 0#_)
    (hfirst : exponent = 0#_ → mantissa ≠ 0#_) :
    side? (UnpackedFloat.unpack Format.binary64
      (packComponents Format.binary64 s exponent mantissa)) = some (sideOf s) := by
  unfold UnpackedFloat.unpack
  dsimp only
  rw [unpackExponent_packComponents, ofBitVec_unpackSign_packComponents]
  by_cases he : exponent = -1#_
  · rw [if_pos he, if_pos (unpackMantissa_packComponents.trans (hlast he))]
    exact side?_infinity s
  rw [if_neg he]
  by_cases he : exponent = 0#_
  · have hne : unpackMantissa (packComponents Format.binary64 s exponent mantissa) ≠ 0#_ := by
      rw [unpackMantissa_packComponents]
      exact hfirst he
    rw [if_pos he, dif_neg hne]
    exact side?_finite ..
  · rw [if_neg he]
    exact side?_finite ..

end

/-- A number stays where it lies when it is packed, even if it becomes infinite. -/
theorem side?_pack {u : UnpackedFloat} (hu : Bounded u) : side? (pack u).unpack = side? u := by
  change side? (UnpackedFloat.unpack Format.binary64 (UnpackedFloat.pack Format.binary64 u)) = _
  cases u with
  | notANumber => rfl
  | infinity s => cases s <;> rfl
  | zero s => cases s <;> rfl
  | finite s m e hm =>
    obtain ⟨hmantissa, hexponent⟩ := hu
    rw [side?_finite]
    unfold UnpackedFloat.pack
    extract_lets digits biased
    have hpositive : 0 < biased := by
      change 0 < (e + (1023 : Nat) + (52 : Nat)).toNat
      omega
    clear_value biased
    split
    next => cases s <;> rfl
    next hbiased =>
      change ¬ 2 ^ 11 ≤ biased + 1 at hbiased
      split
      next =>
        -- The bits of the exponent are neither all set nor all clear.
        have hbits : (BitVec.ofNat 11 biased).toNat = biased := by
          rw [BitVec.toNat_ofNat, Nat.mod_eq_of_lt (by omega)]
        apply side?_packComponents
        · intro he
          have := hbits.symm.trans (congrArg BitVec.toNat he)
          simp at this
          omega
        · intro he
          have := hbits.symm.trans (congrArg BitVec.toNat he)
          simp at this
          omega
      next hdigits =>
        change ¬ m.log2 + 1 = 53 at hdigits
        have hlog : m.log2 < 53 := (Nat.log2_lt hm.ne').2 hmantissa
        have hsmall : m < 2 ^ 52 := (Nat.log2_lt hm.ne').1 (by omega)
        apply side?_packComponents
        · intro he
          cases he
        · intro _ hzero
          have := congrArg BitVec.toNat hzero
          simp at this
          omega

/-! ## Rounding -/

theorem shiftRight_mantissa (em : ExtendedMantissa) (k : Nat) :
    (em >>> k).mantissa = em.mantissa / 2 ^ k := by
  change (k.repeat ExtendedMantissa.shiftRightOne em).mantissa = _
  induction k with
  | zero => rw [Nat.repeat, Nat.pow_zero, Nat.div_one]
  | succ k ih =>
    rw [Nat.repeat, ExtendedMantissa.shiftRightOne, ih, Nat.div_div_eq_div_mul, Nat.pow_succ]

theorem ofMantissaAndAccuracy_mantissa (m : Nat) (a : Accuracy) :
    (ExtendedMantissa.ofMantissaAndAccuracy m a).mantissa = m := by
  cases a with
  | exact => rfl
  | inexact o => cases o <;> rfl

theorem le_roundToNearestEven (m : Nat) (a : Accuracy) : m ≤ a.roundToNearestEven m := by
  cases a with
  | exact => exact le_rfl
  | inexact o => cases o <;> simp [Accuracy.roundToNearestEven]

/-- The exponent of a number is as small as its bounds allow. -/
theorem targetExponent_binary64 (t : Int) :
    Format.binary64.targetExponent t = max (t - 53) (-1074) := rfl

/-- A mantissa that is brought into bounds does not become zero. -/
theorem shift_bounds {m : Nat} (hm : 0 < m) {e : Int} (he : -1074 ≤ e) :
    let k := (Format.binary64.targetExponent (totalExponent m e) - e).toNat
    0 < m / 2 ^ k ∧ m / 2 ^ k < 2 ^ 53 := by
  intro k
  have hlow : 2 ^ m.log2 ≤ m := Nat.log2_self_le hm.ne'
  have hhigh : m < 2 ^ (m.log2 + 1) := Nat.lt_log2_self
  have hk : k = m.log2 - 52 := by
    simp only [k, targetExponent_binary64, totalExponent]
    omega
  clear_value k
  subst hk
  constructor
  · apply Nat.div_pos (le_trans (Nat.pow_le_pow_right Nat.two_pos (by omega)) hlow)
    exact Nat.two_pow_pos _
  · rw [Nat.div_lt_iff_lt_mul (Nat.two_pow_pos _), ← Nat.pow_add]
    exact hhigh.trans_le (Nat.pow_le_pow_right Nat.two_pos (by omega))

/-- A number that is rounded keeps its sign and does not become zero. -/
theorem roundWithAccuracy_bounded (s : Sign) {m : Nat} (hm : 0 < m) {e : Int} (he : -1074 ≤ e)
    (a : Accuracy) :
    ∃ m' e' hm', roundWithAccuracy Format.binary64 s m e a = .finite s m' e' hm' ∧
      m' < 2 ^ 53 ∧ -1074 ≤ e' := by
  unfold roundWithAccuracy shiftToTargetExponent shiftToExponent
  dsimp only
  generalize hk : (Format.binary64.targetExponent (totalExponent m e) - e).toNat = k
  have hrounded : 0 < (ExtendedMantissa.ofMantissaAndAccuracy m a >>> k).roundedMantissa := by
    apply Nat.lt_of_lt_of_le _ (le_roundToNearestEven _ _)
    rw [shiftRight_mantissa, ofMantissaAndAccuracy_mantissa, ← hk]
    exact (shift_bounds hm he).1
  generalize (ExtendedMantissa.ofMantissaAndAccuracy m a >>> k).roundedMantissa = r at hrounded
  obtain ⟨hpositive, hsmall⟩ := shift_bounds hrounded (e := e + k) (by omega)
  simp only [shiftRight_mantissa, ofMantissaAndAccuracy_mantissa]
  exact ⟨_, _, hpositive, dif_neg hpositive.ne', hsmall, by omega⟩

/-- A sum of a mantissa is rounded to a number on the same side of zero. -/
theorem normalize_bounded (m : Int) {e : Int} (he : -1074 ≤ e) (s : Sign) :
    Bounded (UnpackedFloat.normalize Format.binary64 m e s) ∧
      side? (UnpackedFloat.normalize Format.binary64 m e s) = some (compare m 0) := by
  have hround (s : Sign) {m : Nat} (hm : 0 < m) :
      Bounded (UnpackedFloat.round Format.binary64 s m e) ∧
        side? (UnpackedFloat.round Format.binary64 s m e) = some (sideOf s) := by
    unfold UnpackedFloat.round decreaseExponent
    dsimp only
    generalize hk : (e - Format.binary64.targetExponent (totalExponent m e)).toNat = k
    have hm' : 0 < m <<< k := by
      rw [Nat.shiftLeft_eq]
      exact Nat.mul_pos hm (Nat.two_pow_pos k)
    have he' : -1074 ≤ e - k := by
      rw [targetExponent_binary64] at hk
      omega
    obtain ⟨m', e', hm', heq, hbounds⟩ := roundWithAccuracy_bounded s hm' he' .exact
    rw [heq]
    exact ⟨hbounds, side?_finite ..⟩
  unfold UnpackedFloat.normalize
  split
  next hlt =>
    rw [hlt]
    exact hround .negative (by have := Int.compare_eq_lt.1 hlt; omega)
  next heq =>
    rw [heq]
    exact ⟨trivial, by cases s <;> rfl⟩
  next hgt =>
    rw [hgt]
    exact hround .positive (by have := Int.compare_eq_gt.1 hgt; omega)

/-! ## Differences -/

/-- A number that is unpacked is in its bounds. -/
theorem unpack_bounded (x : Float) : Bounded x.toModel.unpack := by
  change Bounded (UnpackedFloat.unpack Format.binary64 x.toModel.toBits.toBitVec)
  generalize x.toModel.toBits.toBitVec = b
  unfold UnpackedFloat.unpack
  extract_lets mantissa exponent e sign
  have he : e = (exponent.toNat : Int) - 1075 := rfl
  clear_value e
  split
  next => split <;> trivial
  next =>
    split
    next hfirst =>
      split
      next => trivial
      next =>
        have hlt : mantissa.toNat < 2 ^ 52 := mantissa.isLt
        exact ⟨by omega, by omega⟩
    next hfirst =>
      have hlt : (1#1 ++ mantissa).toNat < 2 ^ 53 := (1#1 ++ mantissa).isLt
      have hpositive : exponent.toNat ≠ 0 := fun h => hfirst (BitVec.eq_of_toNat_eq h)
      exact ⟨hlt, by omega⟩

/-- How high a number lies: below, among or above the finite ones, and among these in units of the
least positive one. -/
def height : UnpackedFloat → List Int
  | .notANumber => [0, 0]
  | .infinity .negative => [-1]
  | .infinity .positive => [1]
  | .zero _ => [0, 0]
  | .finite s m e _ => [0, s.apply m * 2 ^ (e + 1074).toNat]

@[simp] theorem height_zero (s : Sign) : height (.zero s) = [0, 0] := rfl

@[simp] theorem height_finite (s : Sign) (m : Nat) (e : Int) (hm : 0 < m) :
    height (.finite s m e hm) = [0, s.apply m * 2 ^ (e + 1074).toNat] := rfl

theorem compare_finite (a b : Int) : compare [0, a] [0, b] = compare a b := by
  rw [List.compare_cons_cons, List.compare_cons_cons, Std.compare_self, Std.compare_self]
  cases compare a b <;> rfl

theorem compare_sub_zero (a b : Int) {c : Int} (hc : 0 < c) :
    compare (a - b) 0 = compare (a * c) (b * c) := by
  rcases lt_trichotomy a b with h | h | h
  · rw [compare_lt_iff_lt.2 (Int.mul_lt_mul_of_pos_right h hc), compare_lt_iff_lt.2]
    omega
  · rw [h, compare_eq_iff_eq.2 rfl, compare_eq_iff_eq.2 (Int.sub_self b)]
  · rw [compare_gt_iff_gt.2 (Int.mul_lt_mul_of_pos_right h hc), compare_gt_iff_gt.2]
    omega

/-- The height of an infinite number is beyond that of every finite one. -/
theorem compare_finite_infinity (a : Int) (s : Sign) :
    compare [0, a] (height (.infinity s)) = (sideOf s).swap := by
  cases s <;> rfl

theorem compare_infinity_finite (a : Int) (s : Sign) :
    compare (height (.infinity s)) [0, a] = sideOf s := by
  cases s <;> rfl

theorem compare_infinity {s t : Sign} (h : s ≠ t) :
    compare (height (.infinity s)) (height (.infinity t)) = sideOf s := by
  cases s <;> cases t <;> first | exact absurd rfl h | rfl

/-- The sign of a finite number other than zero says where its height lies. -/
theorem compare_apply_zero (s : Sign) {m : Nat} (hm : 0 < m) (k : Nat) :
    compare (s.apply m * 2 ^ k : Int) 0 = sideOf s := by
  have hpositive : (0 : Int) < m * 2 ^ k :=
    Int.mul_pos (Int.natCast_pos.2 hm) (Int.pow_pos (by decide))
  cases s with
  | negative =>
    apply compare_lt_iff_lt.2
    rw [Sign.apply, Int.neg_mul]
    omega
  | positive => exact compare_gt_iff_gt.2 hpositive

theorem apply_shiftLeft (s : Sign) (m j k : Nat) :
    s.apply (m <<< j : Nat) * 2 ^ k = (s.apply m * 2 ^ (j + k) : Int) := by
  rw [Nat.shiftLeft_eq, Int.pow_add]
  cases s with
  | negative =>
    change -((m * 2 ^ j : Nat) : Int) * 2 ^ k = -(m : Int) * (2 ^ j * 2 ^ k)
    rw [Int.natCast_mul, Int.natCast_pow, ← Int.neg_mul, Int.mul_assoc]
    rfl
  | positive =>
    change ((m * 2 ^ j : Nat) : Int) * 2 ^ k = m * (2 ^ j * 2 ^ k)
    rw [Int.natCast_mul, Int.natCast_pow, Int.mul_assoc]
    rfl

/-- The difference of two numbers lies on the side of zero that tells how their heights compare. -/
theorem side?_sub {u v : UnpackedFloat} (hu : u ≠ .notANumber) (hv : v ≠ .notANumber)
    (hub : Bounded u) (hvb : Bounded v) (h : ∀ s, u = .infinity s → v ≠ .infinity s) :
    Bounded (UnpackedFloat.sub Format.binary64 u v) ∧
      side? (UnpackedFloat.sub Format.binary64 u v) = some (compare (height u) (height v)) := by
  cases u with
  | notANumber => exact absurd rfl hu
  | infinity s =>
    cases v with
    | notANumber => exact absurd rfl hv
    | infinity t =>
      have hne : s ≠ t := fun hst => h s rfl (congrArg _ hst.symm)
      rw [compare_infinity hne]
      cases s <;> cases t <;> first | exact absurd rfl hne | exact ⟨trivial, rfl⟩
    | zero t =>
      rw [height_zero, compare_infinity_finite, ← side?_infinity]
      exact ⟨trivial, rfl⟩
    | finite t m e hm =>
      rw [height_finite, compare_infinity_finite, ← side?_infinity]
      exact ⟨trivial, rfl⟩
  | zero s =>
    cases v with
    | notANumber => exact absurd rfl hv
    | infinity t =>
      rw [height_zero, compare_finite_infinity]
      cases t <;> exact ⟨trivial, rfl⟩
    | zero t =>
      rw [height_zero, height_zero, Std.compare_self]
      cases s <;> cases t <;> exact ⟨trivial, rfl⟩
    | finite t m e hm =>
      rw [height_zero, height_finite, compare_finite, Std.OrientedOrd.eq_swap, compare_apply_zero t hm]
      cases t <;> exact ⟨hvb, rfl⟩
  | finite s m e hm =>
    cases v with
    | notANumber => exact absurd rfl hv
    | infinity t =>
      rw [height_finite, compare_finite_infinity]
      cases t <;> exact ⟨trivial, rfl⟩
    | zero t =>
      rw [height_finite, height_zero, compare_finite, compare_apply_zero s hm]
      exact ⟨hub, side?_finite ..⟩
    | finite t n f hn =>
      obtain ⟨-, he⟩ := hub
      obtain ⟨-, hf⟩ := hvb
      -- Both mantissas are shifted to the smaller exponent, and that is taken off both heights.
      have hu : (e + 1074).toNat = (e - min e f).toNat + (min e f + 1074).toNat := by omega
      have hv : (f + 1074).toNat = (f - min e f).toNat + (min e f + 1074).toNat := by omega
      rw [height_finite, height_finite, compare_finite, hu, hv, ← apply_shiftLeft, ← apply_shiftLeft,
        ← compare_sub_zero _ _ (Int.pow_pos (by decide))]
      exact normalize_bounded _ (by omega) _

section

variable {x y : Float}

/-- Where a float lies, seen from zero. -/
theorem isNaN_eq_isNone : x.isNaN = (side? x.toModel.unpack).isNone := by
  unfold Float.isNaN Float.Model.isNaN
  generalize x.toModel.unpack = u
  cases u with
  | notANumber => rfl
  | infinity s => cases s <;> rfl
  | zero s => rfl
  | finite s m e hm => cases s <;> rfl

/-- Floats compare as the numbers that they are unpacked to. -/
theorem lt_iff_compare : x < y ↔ x.toModel.unpack.compare y.toModel.unpack = some .lt := by
  change decide (x.toModel < y.toModel) = true ↔ _
  rw [decide_eq_true_iff]
  change (x.toModel.unpack.compare y.toModel.unpack == some .lt) = true ↔ _
  exact beq_iff_eq

theorem lt_zero_iff : x < 0.0 ↔ side? x.toModel.unpack = some .lt := lt_iff_compare

theorem zero_lt_iff : 0.0 < x ↔ side? x.toModel.unpack = some .gt := by
  rw [lt_iff_compare]
  change UnpackedFloat.compare (.zero .positive) x.toModel.unpack = some .lt ↔ _
  generalize x.toModel.unpack = u
  cases u with
  | infinity s => cases s <;> simp [side?, UnpackedFloat.compare]
  | finite s m e hm => cases s <;> simp [side?, UnpackedFloat.compare]
  | _ => simp [side?, UnpackedFloat.compare]

theorem exists_infinity_of_isInf (h : x.isInf = true) : ∃ s, x.toModel.unpack = .infinity s := by
  unfold Float.isInf Float.Model.isInf at h
  generalize x.toModel.unpack = u at h
  cases u with
  | infinity s => exact ⟨s, rfl⟩
  | _ => cases h

theorem isInf_of_unpack {s : Sign} (h : x.toModel.unpack = .infinity s) : x.isInf = true := by
  unfold Float.isInf Float.Model.isInf
  rw [h]
  rfl

/-- The infinite numbers are those at the two ends. -/
theorem isInf_iff :
    x.isInf = true ↔ height x.toModel.unpack = [-1] ∨ height x.toModel.unpack = [1] := by
  unfold Float.isInf Float.Model.isInf
  generalize x.toModel.unpack = u
  cases u with
  | infinity s =>
    refine iff_of_true rfl ?_
    cases s
    · exact .inl rfl
    · exact .inr rfl
  | _ => exact iff_of_false nofun (by rintro (h | h) <;> cases h)

/-- The difference of two defined numbers is NaN when they are the same infinite number.  Else it
lies on the side of zero that tells how their heights compare. -/
theorem side?_difference (hx : x.isNaN = false) (hy : y.isNaN = false) :
    side? (x - y).toModel.unpack =
      if x.isInf = true ∧ height x.toModel.unpack = height y.toModel.unpack then none
      else some (compare (height x.toModel.unpack) (height y.toModel.unpack)) := by
  have hx := unpack_ne_notANumber hx
  have hy := unpack_ne_notANumber hy
  change side? (pack (UnpackedFloat.sub Format.binary64 x.toModel.unpack y.toModel.unpack)).unpack
    = _
  split
  next hsame =>
    obtain ⟨hinf, hheight⟩ := hsame
    obtain ⟨s, hs⟩ := exists_infinity_of_isInf hinf
    rw [hs] at hheight ⊢
    generalize y.toModel.unpack = v at hy hheight
    cases v with
    | notANumber => exact absurd rfl hy
    | infinity t =>
      cases s <;> cases t <;> first | rfl | cases hheight
    | zero t => cases s <;> cases hheight
    | finite t m e hm => cases s <;> cases hheight
  next hdifferent =>
    have hne (s : Sign) (hs : x.toModel.unpack = .infinity s) : y.toModel.unpack ≠ .infinity s :=
      fun ht => hdifferent ⟨isInf_of_unpack hs, by rw [hs, ht]⟩
    obtain ⟨hbounded, hside⟩ := side?_sub hx hy (unpack_bounded x) (unpack_bounded y) hne
    rw [side?_pack hbounded, hside]

end

end Spreadsheet
