import Spreadsheet.Proofs.Decimal.Whole

/-!
# Sums and products of whole numbers

The sum and the product of two natural numbers are computed without loss as long
as the result is below `2 ^ 53` (`add_ofNat`, `mul_ofNat`).  Both come out with a
mantissa of full length and zeros behind it, which rounding drops.
-/

namespace Spreadsheet.Decimal

open Float.Model UnpackedFloat

variable {a b : Nat}

theorem eq_of_toModel {x y : Float} (h : x.toModel = y.toModel) : x = y :=
  congrArg Float.ofModel h

theorem toModel_add (x y : Float) : (x + y).toModel =
    pack (UnpackedFloat.add Format.binary64 x.toModel.unpack y.toModel.unpack) := rfl

theorem toModel_mul (x y : Float) : (x * y).toModel =
    pack (UnpackedFloat.mul Format.binary64 x.toModel.unpack y.toModel.unpack) := rfl

/-- Rounding to the nearest number drops zeros behind a mantissa of full length. -/
theorem round_shifted (s : Sign) {m : Nat} {e : Int} (hlow : 2 ^ 52 ≤ m) (hhigh : m < 2 ^ 53)
    (he : -1074 ≤ e) (k : Nat) :
    UnpackedFloat.round Format.binary64 s (m * 2 ^ k) (e - k) =
      .finite s m e ((Nat.two_pow_pos 52).trans_le hlow) := by
  have hshift : (e - (k : Int) - e).toNat = 0 := by omega
  unfold UnpackedFloat.round decreaseExponent
  dsimp only
  rw [targetExponent_shifted hlow hhigh he k, hshift, Nat.shiftLeft_zero, Int.natCast_zero,
    Int.sub_zero, roundWithAccuracy_shifted s hlow hhigh he k]

/-- A mantissa of full length, lowered to a smaller exponent. -/
theorem decreaseExponent_full {n l : Nat} (hn : 0 < n) (hlt : n < 2 ^ 53) (hl : l ≤ n.log2) :
    (decreaseExponent (n * 2 ^ (52 - n.log2)) (n.log2 - 52) (l - 52)).1 = n * 2 ^ (52 - l) := by
  have hlog : n.log2 < 53 := (Nat.log2_lt hn.ne').2 hlt
  have hshift : ((n.log2 : Int) - 52 - (l - 52)).toNat = n.log2 - l := by omega
  unfold decreaseExponent
  dsimp only
  rw [hshift, Nat.shiftLeft_eq, Nat.mul_assoc, ← Nat.pow_add]
  congr 2
  omega

theorem unpack_zero : (Float.ofNat 0).toModel.unpack = .zero .positive := rfl

/-- A number with zeros behind it has full length and the rest of the zeros. -/
theorem mul_pow_eq_full {n k : Nat} (hk : 52 ≤ n.log2 + k) (hlog : n.log2 ≤ 52) :
    n * 2 ^ k = n * 2 ^ (52 - n.log2) * 2 ^ (n.log2 + k - 52) := by
  rw [Nat.mul_assoc, ← Nat.pow_add]
  congr 2
  omega

theorem log2_le_log2 {m n : Nat} (hm : 0 < m) (h : m ≤ n) : m.log2 ≤ n.log2 :=
  (Nat.le_log2 (by omega)).2 ((Nat.log2_self_le hm.ne').trans h)

/-- The sum of two positive natural numbers is exact below `2 ^ 53`. -/
theorem add_ofNat_of_pos (ha : 0 < a) (hb : 0 < b) (h : a + b < 2 ^ 53) :
    Float.ofNat a + Float.ofNat b = Float.ofNat (a + b) := by
  obtain ⟨hlow, hhigh⟩ := full_length (n := a + b) (by omega) h
  have hlog : (a + b).log2 < 53 := (Nat.log2_lt (by omega)).2 h
  have hleft : a.log2 ≤ (a + b).log2 := log2_le_log2 ha (by omega)
  -- Both summands are brought to the exponent of the smaller one.
  obtain ⟨l, hl⟩ : ∃ l, l = min a.log2 b.log2 := ⟨_, rfl⟩
  have hexponent : min ((a.log2 : Int) - 52) (b.log2 - 52) = l - 52 := by omega
  have hmantissa : a * 2 ^ (52 - l) + b * 2 ^ (52 - l) =
      (a + b) * 2 ^ (52 - (a + b).log2) * 2 ^ ((a + b).log2 - l) := by
    rw [← Nat.add_mul, mul_pow_eq_full (by omega) (by omega)]
    congr 2
    omega
  have hround := round_shifted .positive hlow hhigh (e := (a + b).log2 - 52) (by omega)
    ((a + b).log2 - l)
  rw [show ((a + b).log2 : Int) - 52 - ((a + b).log2 - l : Nat) = l - 52 by omega,
    ← hmantissa] at hround
  have hpos : 0 < a * 2 ^ (52 - l) := Nat.mul_pos ha (Nat.two_pow_pos _)
  apply eq_of_toModel
  rw [toModel_add, unpack_ofNat ha (by omega), unpack_ofNat hb (by omega),
    toModel_ofNat (by omega) h]
  refine congrArg pack ?_
  unfold UnpackedFloat.add
  dsimp only
  rw [hexponent, decreaseExponent_full ha (by omega) (by omega),
    decreaseExponent_full hb (by omega) (by omega)]
  change UnpackedFloat.normalize Format.binary64
    ((a * 2 ^ (52 - l) : Nat) + (b * 2 ^ (52 - l) : Nat) : Int) (l - 52) .positive = _
  rw [← Int.natCast_add, UnpackedFloat.normalize, Int.compare_eq_gt.2 (by omega)]
  dsimp only
  rw [Int.toNat_natCast, hround]

/-- The sum of two natural numbers is exact below `2 ^ 53`. -/
theorem add_ofNat (h : a + b < 2 ^ 53) : Float.ofNat a + Float.ofNat b = Float.ofNat (a + b) := by
  obtain rfl | ha := Nat.eq_zero_or_pos a
  · rw [Nat.zero_add] at h ⊢
    obtain rfl | hb := Nat.eq_zero_or_pos b
    · rfl
    · apply eq_of_toModel
      rw [toModel_add, unpack_zero, unpack_ofNat hb h, toModel_ofNat hb h]
      rfl
  obtain rfl | hb := Nat.eq_zero_or_pos b
  · apply eq_of_toModel
    rw [Nat.add_zero] at h ⊢
    rw [toModel_add, unpack_zero, unpack_ofNat ha h, toModel_ofNat ha h]
    rfl
  · exact add_ofNat_of_pos ha hb h

/-- The product of two positive natural numbers is exact below `2 ^ 53`. -/
theorem mul_ofNat (ha : 0 < a) (hb : 0 < b) (h : a * b < 2 ^ 53) :
    Float.ofNat a * Float.ofNat b = Float.ofNat (a * b) := by
  have hab : 0 < a * b := Nat.mul_pos ha hb
  obtain ⟨hlow, hhigh⟩ := full_length hab h
  have hlog : (a * b).log2 < 53 := (Nat.log2_lt hab.ne').2 h
  have ha' : a < 2 ^ 53 := (Nat.le_mul_of_pos_right a hb).trans_lt h
  have hb' : b < 2 ^ 53 := (Nat.le_mul_of_pos_left b ha).trans_lt h
  have hsum : a.log2 + b.log2 ≤ (a * b).log2 := by
    rw [Nat.le_log2 hab.ne', Nat.pow_add]
    exact Nat.mul_le_mul (Nat.log2_self_le ha.ne') (Nat.log2_self_le hb.ne')
  have hmantissa : a * 2 ^ (52 - a.log2) * (b * 2 ^ (52 - b.log2)) =
      a * b * 2 ^ (52 - (a * b).log2) * 2 ^ (52 + (a * b).log2 - a.log2 - b.log2) := by
    rw [Nat.mul_mul_mul_comm, ← Nat.pow_add, mul_pow_eq_full (by omega) (by omega)]
    congr 2
    omega
  have hround := roundWithAccuracy_shifted .positive hlow hhigh (e := (a * b).log2 - 52) (by omega)
    (52 + (a * b).log2 - a.log2 - b.log2)
  apply eq_of_toModel
  rw [toModel_mul, unpack_ofNat ha ha', unpack_ofNat hb hb', toModel_ofNat hab h]
  refine congrArg pack ?_
  change roundWithAccuracy Format.binary64 .positive
    (a * 2 ^ (52 - a.log2) * (b * 2 ^ (52 - b.log2))) ((a.log2 - 52 : Int) + (b.log2 - 52)) .exact = _
  rw [hmantissa, ← hround]
  congr 1
  omega

end Spreadsheet.Decimal
