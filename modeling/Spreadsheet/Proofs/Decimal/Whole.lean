import Spreadsheet.Decimal.Integral
import Spreadsheet.Proofs.Value.Differences

/-!
# Whole numbers as floats

The bits of a float and the number that they are unpacked to say the same
(`shape_eq`), so what is read off the bits can be compared with what arithmetic
does.  A float that stands for a positive number is not below 1 (`not_lt_one`).

Every natural number up to `2 ^ 53` is a float: none of its digits is lost, and
it comes back when it is read (`toUnsigned64_ofNat`).  It is built from the
number with a mantissa of full length, which rounding and packing leave as it is
(`roundWithAccuracy_shifted`, `unpack_pack`), and multiplied by 1.
-/

namespace Spreadsheet.Decimal

open Float.Model UnpackedFloat

/-! ## Shapes -/

/-- Whether a sign is the negative one. -/
def isNegative : Sign → Bool
  | .negative => true
  | .positive => false

/-- The shape of an unpacked number. -/
def shapeOf : UnpackedFloat → Shape
  | .notANumber => .nan
  | .infinity s => .infinite (isNegative s)
  | .zero s => .finite ⟨isNegative s, 0, -1074⟩
  | .finite s m e _ => .finite ⟨isNegative s, m, e⟩

theorem toNat_unpackMantissa (b : BitVec Format.binary64.numBits) :
    (unpackMantissa b).toNat = b.toNat % hiddenBit := by
  change (b.extractLsb' 0 52).toNat = _
  rw [BitVec.extractLsb'_toNat, Nat.shiftRight_zero]
  rfl

theorem toNat_unpackExponent (b : BitVec Format.binary64.numBits) :
    (unpackExponent b).toNat = b.toNat / hiddenBit % 2048 := by
  change (b.extractLsb' 52 11).toNat = _
  rw [BitVec.extractLsb'_toNat, Nat.shiftRight_eq_div_pow]
  rfl

theorem isNegative_unpackSign (b : BitVec Format.binary64.numBits) :
    isNegative (Sign.ofBitVec (unpackSign b)) = decide (signBit ≤ b.toNat) := by
  have hsign : (unpackSign b).toNat = b.toNat / signBit % 2 := by
    change (b.extractLsb' 63 1).toNat = _
    rw [BitVec.extractLsb'_toNat, Nat.shiftRight_eq_div_pow]
    rfl
  have hlt : b.toNat < 2 ^ 64 := b.isLt
  unfold Sign.ofBitVec signBit at *
  by_cases hle : 9223372036854775808 ≤ b.toNat
  · have hne : unpackSign b ≠ 0#1 := by
      intro h
      have := congrArg BitVec.toNat h
      rw [hsign] at this
      simp at this
      omega
    rw [if_neg hne, decide_eq_true hle]
    rfl
  · have heq : unpackSign b = 0#1 := by
      apply BitVec.eq_of_toNat_eq
      rw [hsign]
      simp
      omega
    rw [if_pos heq, decide_eq_false hle]
    rfl

/-- Bits have the shape of the number that they are unpacked to. -/
theorem ofBits_eq_shapeOf (b : BitVec Format.binary64.numBits) :
    Shape.ofBits b.toNat = shapeOf (UnpackedFloat.unpack Format.binary64 b) := by
  unfold Shape.ofBits UnpackedFloat.unpack
  dsimp only
  rw [← isNegative_unpackSign, ← toNat_unpackExponent, ← toNat_unpackMantissa]
  have hlast : unpackExponent b = -1#_ ↔ (unpackExponent b).toNat = 2047 := BitVec.toNat_inj.symm
  have hfirst : unpackExponent b = 0#_ ↔ (unpackExponent b).toNat = 0 := BitVec.toNat_inj.symm
  have hnone : unpackMantissa b = 0#_ ↔ (unpackMantissa b).toNat = 0 := BitVec.toNat_inj.symm
  by_cases he : (unpackExponent b).toNat = 2047
  · rw [if_pos he, if_pos (hlast.2 he)]
    by_cases hm : (unpackMantissa b).toNat = 0
    · rw [if_pos hm, if_pos (hnone.2 hm)]
      rfl
    · rw [if_neg hm, if_neg (hnone.not.2 hm)]
      rfl
  rw [if_neg he, if_neg (hlast.not.2 he)]
  by_cases he : (unpackExponent b).toNat = 0
  · rw [if_pos he, if_pos (hfirst.2 he), he]
    by_cases hm : (unpackMantissa b).toNat = 0
    · rw [dif_pos (hnone.2 hm), hm]
      rfl
    · rw [dif_neg (hnone.not.2 hm)]
      rfl
  · rw [if_neg he, if_neg (hfirst.not.2 he)]
    have happend : (1#1 ++ unpackMantissa b).toNat = hiddenBit + (unpackMantissa b).toNat := by
      rw [BitVec.toNat_append, ← Nat.shiftLeft_add_eq_or_of_lt (unpackMantissa b).isLt]
      rfl
    rw [shapeOf, happend]
    rfl

theorem shape_eq (x : Float) : shape x = shapeOf x.toModel.unpack :=
  ofBits_eq_shapeOf x.toModel.toBits.toBitVec

/-! ## Natural numbers from floats -/

variable {x : Float} {n : Nat}

/-- The whole part of a number without its sign. -/
def Binary.whole (b : Binary) : Nat := b.fraction.1 / b.fraction.2

/-- A float stands for the whole part of its value, as far as 64 bits reach. -/
theorem toUnsigned64_eq (x : Float) :
    toUnsigned64 x = match shapeOf x.toModel.unpack with
      | .nan => 0
      | .infinite negative => if negative then 0 else 18446744073709551615
      | .finite b => if b.negative then 0 else min b.whole 18446744073709551615 := by
  unfold toUnsigned64 toWhole
  rw [shape_eq]
  cases shapeOf x.toModel.unpack with
  | nan => rfl
  | infinite negative => cases negative <;> rfl
  | finite b =>
    change (max 0 (min 18446744073709551615
      (if b.negative then -(b.whole : Int) else b.whole))).toNat
      = if b.negative then 0 else min b.whole 18446744073709551615
    generalize b.whole = w
    cases b.negative with
    | true =>
      rw [if_pos rfl, if_pos rfl]
      omega
    | false =>
      rw [if_neg Bool.false_ne_true, if_neg Bool.false_ne_true]
      omega

/-- The whole part is zero where the mantissa is less than the unit. -/
theorem whole_eq_zero {negative : Bool} {m : Nat} {e : Int} (hm : m < 2 ^ (-e).toNat) :
    (Binary.mk negative m e).whole = 0 := by
  have hpow : Nat.pow 2 e.toNat = 1 ∨ m = 0 := by
    obtain he | he := le_or_gt e 0
    · rw [Int.toNat_eq_zero.2 he]
      exact .inl rfl
    · rw [Int.toNat_eq_zero.2 (by omega)] at hm
      exact .inr (by omega)
  apply Nat.div_eq_of_lt
  change m * Nat.pow 2 e.toNat < 2 ^ (-e).toNat
  obtain h | rfl := hpow
  · rwa [h, Nat.mul_one]
  · rw [Nat.zero_mul]
    exact Nat.two_pow_pos _

/-- A float that stands for a positive number is not below one. -/
theorem not_lt_one (h : 1 ≤ toUnsigned64 x) : ¬ x < 1.0 := by
  have hone : (1.0 : Float).toModel.unpack = .finite .positive (2 ^ 52) (-52) (by decide) := rfl
  have hbounded := unpack_bounded x
  rw [toUnsigned64_eq] at h
  rw [lt_iff_compare, hone]
  generalize x.toModel.unpack = u at h hbounded
  cases u with
  | notANumber => exact nofun
  | infinity s =>
    cases s with
    | negative => cases h
    | positive => exact nofun
  | zero s =>
    simp only [shapeOf, whole_eq_zero (Nat.two_pow_pos _), Nat.zero_min, ite_self] at h
    cases h
  | finite s m e hm =>
    cases s with
    | negative => cases h
    | positive =>
      intro hlt
      have hsmall : m < 2 ^ (-e).toNat := by
        change some ((compare e (-52)).then (compare m (2 ^ 52))) = some .lt at hlt
        rw [Option.some_inj, Ordering.then_eq_lt, Int.compare_eq_lt, Int.compare_eq_eq,
          Nat.compare_eq_lt] at hlt
        obtain he | ⟨rfl, hm⟩ := hlt
        · exact hbounded.1.trans_le (Nat.pow_le_pow_right Nat.two_pos (by omega))
        · exact hm
      simp only [shapeOf, whole_eq_zero hsmall, Nat.zero_min, ite_self] at h
      cases h

/-- A float that stands for a positive number is not below zero. -/
theorem not_lt_zero (h : 1 ≤ toUnsigned64 x) : ¬ x < 0.0 := by
  rw [toUnsigned64_eq] at h
  rw [lt_zero_iff]
  generalize x.toModel.unpack = u at h
  cases u with
  | notANumber => exact nofun
  | zero s => exact nofun
  | infinity s =>
    cases s with
    | negative => cases h
    | positive => exact nofun
  | finite s m e hm =>
    cases s with
    | negative => cases h
    | positive => exact nofun

/-! ## Whole numbers -/

/-- Zeros behind a mantissa leave no trace when they are shifted out. -/
theorem shiftRight_shifted (m k : Nat) :
    (ExtendedMantissa.mk (m * 2 ^ k) false false) >>> k = ⟨m, false, false⟩ := by
  change k.repeat ExtendedMantissa.shiftRightOne ⟨m * 2 ^ k, false, false⟩ = _
  induction k generalizing m with
  | zero => rw [Nat.pow_zero, Nat.mul_one, Nat.repeat]
  | succ k ih =>
    have hpow : m * 2 ^ (k + 1) = m * 2 * 2 ^ k := by rw [Nat.pow_succ', Nat.mul_assoc]
    rw [hpow, Nat.repeat, ih (m * 2)]
    simp [ExtendedMantissa.shiftRightOne]

/-- The target of a mantissa of full length is its own exponent. -/
theorem targetExponent_shifted {m : Nat} {e : Int} (hlow : 2 ^ 52 ≤ m) (hhigh : m < 2 ^ 53)
    (he : -1074 ≤ e) (k : Nat) :
    Format.binary64.targetExponent (totalExponent (m * 2 ^ k) (e - k)) = e := by
  have hlog : (m * 2 ^ k).log2 = 52 + k := by
    rw [Nat.log2_eq_iff (Nat.mul_ne_zero (by omega) (Nat.two_pow_pos k).ne'), Nat.pow_add,
      show 52 + k + 1 = 53 + k by omega, Nat.pow_add]
    exact ⟨Nat.mul_le_mul_right _ hlow, Nat.mul_lt_mul_of_pos_right hhigh (Nat.two_pow_pos k)⟩
  rw [targetExponent_binary64, totalExponent, hlog]
  omega

/-- Rounding keeps a mantissa of full length, with zeros behind it or without. -/
theorem roundWithAccuracy_shifted (s : Sign) {m : Nat} {e : Int} (hlow : 2 ^ 52 ≤ m)
    (hhigh : m < 2 ^ 53) (he : -1074 ≤ e) (k : Nat) :
    roundWithAccuracy Format.binary64 s (m * 2 ^ k) (e - k) .exact =
      .finite s m e (by omega) := by
  have hshift : (e - (e - k)).toNat = k := by omega
  have hback : e - (k : Int) + (k : Int) = e := by omega
  have hagain := targetExponent_shifted hlow hhigh he 0
  simp only [Nat.pow_zero, Nat.mul_one, Int.natCast_zero, Int.sub_zero] at hagain
  unfold roundWithAccuracy shiftToTargetExponent shiftToExponent
  dsimp only [ExtendedMantissa.ofMantissaAndAccuracy]
  rw [targetExponent_shifted hlow hhigh he k, hshift, shiftRight_shifted, hback]
  have hrounded : (ExtendedMantissa.mk m false false).roundedMantissa = m := rfl
  have hnone : ExtendedMantissa.mk m false false >>> (0 : Nat) = ⟨m, false, false⟩ := rfl
  simp only [hrounded, hagain, Int.sub_self, Int.toNat_zero, hnone, Int.natCast_zero, Int.add_zero]
  exact dif_neg (by omega)

/-- A number with a mantissa of full length is packed without loss. -/
theorem unpack_pack (s : Sign) {m : Nat} {e : Int} (hm : 0 < m) (hlow : 2 ^ 52 ≤ m)
    (hhigh : m < 2 ^ 53) (he : -1074 ≤ e) (he' : e ≤ 971) :
    (pack (.finite s m e hm)).unpack = .finite s m e hm := by
  have hlog : m.log2 = 52 := (Nat.log2_eq_iff hm.ne').2 ⟨hlow, hhigh⟩
  change UnpackedFloat.unpack Format.binary64 (UnpackedFloat.pack Format.binary64 _) = _
  unfold UnpackedFloat.pack
  extract_lets digits biased
  have hbiased : biased = (e + 1075).toNat := by
    change (e + (1023 : Nat) + (52 : Nat)).toNat = _
    omega
  have hbits : (BitVec.ofNat 11 biased).toNat = biased := by
    rw [BitVec.toNat_ofNat, Nat.mod_eq_of_lt (by omega)]
  have hmantissa : (1#1 ++ BitVec.ofNat 52 m).toNat = m := by
    rw [BitVec.toNat_append, ← Nat.shiftLeft_add_eq_or_of_lt (BitVec.ofNat 52 m).isLt,
      BitVec.toNat_ofNat]
    change 2 ^ 52 + m % 2 ^ 52 = m
    omega
  have hlast : BitVec.ofNat 11 biased ≠ -1#11 := by
    intro h
    have := hbits.symm.trans (congrArg BitVec.toNat h)
    simp at this
    omega
  have hfirst : BitVec.ofNat 11 biased ≠ 0#11 := by
    intro h
    have := hbits.symm.trans (congrArg BitVec.toNat h)
    simp at this
    omega
  clear_value biased
  rw [if_neg (by change ¬ 2 ^ 11 ≤ biased + 1; omega), if_pos (by change m.log2 + 1 = 53; omega)]
  unfold UnpackedFloat.unpack
  dsimp only
  rw [unpackExponent_packComponents, ofBitVec_unpackSign_packComponents, if_neg hlast,
    if_neg hfirst, finite.injEq, unpackMantissa_packComponents]
  refine ⟨rfl, hmantissa, ?_⟩
  change ((BitVec.ofNat 11 biased).toNat : Int) - 1075 = e
  omega

/-- A natural number below `2 ^ 53` is brought to full length. -/
theorem full_length (hn : 0 < n) (hlt : n < 2 ^ 53) :
    2 ^ 52 ≤ n * 2 ^ (52 - n.log2) ∧ n * 2 ^ (52 - n.log2) < 2 ^ 53 := by
  have hlog : n.log2 < 53 := (Nat.log2_lt hn.ne').2 hlt
  have hlow := Nat.mul_le_mul_right (2 ^ (52 - n.log2)) (Nat.log2_self_le hn.ne')
  have hhigh := Nat.mul_lt_mul_of_pos_right (Nat.lt_log2_self (n := n))
    (Nat.two_pow_pos (52 - n.log2))
  rw [← Nat.pow_add] at hlow hhigh
  rw [show n.log2 + (52 - n.log2) = 52 by omega] at hlow
  rw [show n.log2 + 1 + (52 - n.log2) = 53 by omega] at hhigh
  exact ⟨hlow, hhigh⟩

theorem round_natCast (hn : 0 < n) (hlt : n < 2 ^ 53) :
    UnpackedFloat.round Format.binary64 .positive n 0 =
      .finite .positive (n * 2 ^ (52 - n.log2)) (n.log2 - 52)
        (Nat.mul_pos hn (Nat.two_pow_pos _)) := by
  obtain ⟨hlow, hhigh⟩ := full_length hn hlt
  have hlog : n.log2 < 53 := (Nat.log2_lt hn.ne').2 hlt
  have htarget : Format.binary64.targetExponent (totalExponent n 0) = (n.log2 : Int) - 52 := by
    rw [targetExponent_binary64, totalExponent]
    omega
  have hshift : (0 - ((n.log2 : Int) - 52)).toNat = 52 - n.log2 := by omega
  have hexponent : (0 : Int) - ((52 - n.log2 : Nat) : Int) = (n.log2 : Int) - 52 := by omega
  have hround := roundWithAccuracy_shifted .positive hlow hhigh (e := n.log2 - 52) (by omega) 0
  rw [Nat.pow_zero, Nat.mul_one, Int.natCast_zero, Int.sub_zero] at hround
  unfold UnpackedFloat.round decreaseExponent
  dsimp only
  rw [htarget, hshift, hexponent, Nat.shiftLeft_eq, hround]

/-- The float of a natural number below `2 ^ 53` is packed from a mantissa of full length. -/
theorem toModel_ofNat (hn : 0 < n) (hlt : n < 2 ^ 53) :
    (Float.ofNat n).toModel =
      pack (.finite .positive (n * 2 ^ (52 - n.log2)) (n.log2 - 52)
        (Nat.mul_pos hn (Nat.two_pow_pos _))) := by
  obtain ⟨hlow, hhigh⟩ := full_length hn hlt
  have hlog : n.log2 < 53 := (Nat.log2_lt hn.ne').2 hlt
  have hpack := unpack_pack .positive (by omega) hlow hhigh (e := n.log2 - 52) (by omega) (by omega)
  have htoNat : n.toUInt64.toNat = n := by
    rw [Nat.toUInt64_eq, UInt64.toNat_ofNat', Nat.mod_eq_of_lt (by omega)]
  have hfloat : n.toUInt64.toFloat.toModel.unpack =
      .finite .positive (n * 2 ^ (52 - n.log2)) (n.log2 - 52)
        (Nat.mul_pos hn (Nat.two_pow_pos _)) := by
    change (pack (UnpackedFloat.normalize Format.binary64
      (n.toUInt64.toNat : Int) 0 .positive)).unpack = _
    rw [htoNat, UnpackedFloat.normalize, Int.compare_eq_gt.2 (by omega)]
    dsimp only
    rw [Int.toNat_natCast, round_natCast hn hlt, hpack]
  -- The float is multiplied by the power of ten that is 1.
  have hone : Float.exactlyRepresentablePowersOfTen[0].toModel.unpack =
      .finite .positive (2 ^ 52) (-52) (by decide) := rfl
  have hproduct : Float.ofNat n =
      n.toUInt64.toFloat * Float.exactlyRepresentablePowersOfTen[0] := by
    exact dif_pos ⟨hlt, by decide⟩
  rw [hproduct]
  change pack (UnpackedFloat.mul Format.binary64 n.toUInt64.toFloat.toModel.unpack
    Float.exactlyRepresentablePowersOfTen[0].toModel.unpack) = _
  rw [hfloat, hone]
  change pack (roundWithAccuracy Format.binary64 .positive (n * 2 ^ (52 - n.log2) * 2 ^ 52)
    (n.log2 - 52 - (52 : Nat)) .exact) = _
  rw [roundWithAccuracy_shifted .positive hlow hhigh (by omega) 52]

/-- A natural number below `2 ^ 53` is a float. -/
theorem unpack_ofNat (hn : 0 < n) (hlt : n < 2 ^ 53) :
    (Float.ofNat n).toModel.unpack =
      .finite .positive (n * 2 ^ (52 - n.log2)) (n.log2 - 52)
        (Nat.mul_pos hn (Nat.two_pow_pos _)) := by
  obtain ⟨hlow, hhigh⟩ := full_length hn hlt
  have hlog : n.log2 < 53 := (Nat.log2_lt hn.ne').2 hlt
  rw [toModel_ofNat hn hlt, unpack_pack .positive _ hlow hhigh (by omega) (by omega)]

theorem shape_ofNat (hn : 0 < n) (hlt : n < 2 ^ 53) :
    shape (Float.ofNat n) = .finite ⟨false, n * 2 ^ (52 - n.log2), n.log2 - 52⟩ := by
  rw [shape_eq, unpack_ofNat hn hlt]
  rfl

/-- A natural number is the whole part of its float. -/
theorem whole_full_length (negative : Bool) (hn : 0 < n) (hlt : n < 2 ^ 53) :
    (Binary.mk negative (n * 2 ^ (52 - n.log2)) (n.log2 - 52)).whole = n := by
  have hlog : n.log2 < 53 := (Nat.log2_lt hn.ne').2 hlt
  change n * 2 ^ (52 - n.log2) * 2 ^ ((n.log2 : Int) - 52).toNat /
    2 ^ (-((n.log2 : Int) - 52)).toNat = n
  rw [show ((n.log2 : Int) - 52).toNat = 0 by omega,
    show (-((n.log2 : Int) - 52)).toNat = 52 - n.log2 by omega, Nat.pow_zero, Nat.mul_one,
    Nat.mul_div_cancel _ (Nat.two_pow_pos _)]

/-- A natural number comes back from its float. -/
theorem toUnsigned64_ofNat (hn : n ≤ 2 ^ 53) : toUnsigned64 (Float.ofNat n) = n := by
  obtain rfl | hpos := Nat.eq_zero_or_pos n
  · have hzero : (Float.ofNat 0).toModel.unpack = .zero .positive := rfl
    rw [toUnsigned64_eq, hzero]
    simp only [shapeOf, whole_eq_zero (Nat.two_pow_pos _), Nat.zero_min, ite_self]
  obtain rfl | hlt := Nat.eq_or_lt_of_le hn
  · rfl
  rw [toUnsigned64_eq, ← shape_eq, shape_ofNat hpos hlt]
  dsimp only
  rw [whole_full_length false hpos hlt, if_neg Bool.false_ne_true]
  omega

/-- The float of a natural number is whole. -/
theorem truncate_ofNat (hn : n ≤ 2 ^ 53) : truncate (Float.ofNat n) = Float.ofNat n := by
  obtain rfl | hpos := Nat.eq_zero_or_pos n
  · decide +kernel
  obtain rfl | hlt := Nat.eq_or_lt_of_le hn
  · rfl
  unfold truncate roundWith
  rw [shape_ofNat hpos hlt]
  dsimp only
  split
  · rfl
  next he =>
    have hunit : (-((n.log2 : Int) - 52)).toNat = 52 - n.log2 := by omega
    have hwhole : n * 2 ^ (52 - n.log2) / Nat.pow 2 (52 - n.log2) = n :=
      Nat.mul_div_cancel _ (Nat.two_pow_pos _)
    rw [hunit, hwhole]
    rfl

end Spreadsheet.Decimal
