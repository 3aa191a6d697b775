import Mathlib.Logic.Basic
import Spreadsheet.Proofs.Value.NotANumber
import Spreadsheet.Value.Aggregate
import Spreadsheet.Value.Annuity

/-!
# Defined numbers

A number is *defined* unless it is NaN.  Here is what keeps numbers defined.
Finite numbers are, and so are whole numbers and decimals that are read off a
text.  The opposite of a defined number is defined, and so are its product and
its quotient with a finite number other than zero.

A value is undefined when it is NaN, with a format or without
(`Value.isUndefined`).  Comparisons leave NaN out, so the greatest and the least
of defined numbers are defined, and so is a rate that the search for one finds.
Sums and products are not among these facts: two infinite numbers of different
signs have no sum, and zero has no product with an infinite number.
-/

namespace Spreadsheet

/-! ## Operations on packed numbers -/

section

open Float.Model

variable {x y : Float}

/-- Bits with another exponent than NaN has, or without a mantissa, are defined. -/
theorem isNaN_packComponents {s : UnpackedFloat.Sign}
    {exponent : BitVec Format.binary64.exponentBits}
    {mantissa : BitVec Format.binary64.mantissaBitsWithoutImplicit}
    (h : exponent = -1#_ → mantissa = 0#_) :
    (UnpackedFloat.unpack Format.binary64
      (UnpackedFloat.packComponents Format.binary64 s exponent mantissa)).isNaN = false := by
  unfold UnpackedFloat.unpack
  dsimp only
  rw [UnpackedFloat.unpackExponent_packComponents]
  by_cases hlast : exponent = -1#_
  case pos =>
    rw [if_pos hlast, if_pos (UnpackedFloat.unpackMantissa_packComponents.trans (h hlast))]
    rfl
  rw [if_neg hlast]
  by_cases hfirst : exponent = 0#_
  case neg =>
    rw [if_neg hfirst]
    rfl
  rw [if_pos hfirst]
  by_cases hmantissa : UnpackedFloat.unpackMantissa
      (UnpackedFloat.packComponents Format.binary64 s exponent mantissa) = 0#_
  case pos =>
    rw [dif_pos hmantissa]
    rfl
  case neg =>
    rw [dif_neg hmantissa]
    rfl

/-- Nothing else than NaN is packed as NaN. -/
theorem isNaN_ofModel_pack {u : UnpackedFloat} (h : u ≠ .notANumber) :
    (Float.ofModel (pack u)).isNaN = false := by
  change (UnpackedFloat.unpack Format.binary64
    (UnpackedFloat.pack Format.binary64 u)).isNaN = false
  cases u with
  | notANumber => exact absurd rfl h
  | infinity s => exact isNaN_packComponents fun _ => rfl
  | zero s => exact isNaN_packComponents fun _ => rfl
  | finite s m e hm =>
    unfold UnpackedFloat.pack
    extract_lets digits exponent
    split
    next => exact isNaN_packComponents fun _ => rfl
    next hexponent =>
      split
      next =>
        -- An exponent that is not too large is not the greatest one either.
        apply isNaN_packComponents
        intro he
        have hbits := congrArg BitVec.toNat he
        clear_value exponent
        simp at hbits hexponent
        omega
      next => exact isNaN_packComponents fun he => by simp at he

theorem unpack_ne_notANumber (h : x.isNaN = false) : x.toModel.unpack ≠ .notANumber := by
  intro hx
  unfold Float.isNaN Float.Model.isNaN at h
  rw [hx] at h
  cases h

/-- A finite number is defined. -/
theorem isNaN_of_isFinite (h : x.isFinite = true) : x.isNaN = false := by
  unfold Float.isFinite Float.Model.isFinite at h
  unfold Float.isNaN Float.Model.isNaN
  generalize x.toModel.unpack = u at h
  cases u with
  | notANumber => cases h
  | _ => rfl

/-- The opposite of a defined number is defined. -/
theorem isNaN_neg (h : x.isNaN = false) : (-x).isNaN = false := by
  have hx := unpack_ne_notANumber h
  change (Float.ofModel (pack x.toModel.unpack.neg)).isNaN = false
  apply isNaN_ofModel_pack
  generalize x.toModel.unpack = u at hx
  cases u with
  | notANumber => exact absurd rfl hx
  | _ => exact UnpackedFloat.noConfusion

theorem roundWithAccuracy_ne_notANumber (s : UnpackedFloat.Sign) (m : Nat) (e : Int)
    (acc : UnpackedFloat.Accuracy) :
    UnpackedFloat.roundWithAccuracy Format.binary64 s m e acc ≠ .notANumber := by
  unfold UnpackedFloat.roundWithAccuracy
  dsimp only
  intro h
  obtain ⟨_, h⟩ | ⟨_, h⟩ := dite_eq_iff.mp h
  · cases h
  · cases h

theorem normalize_ne_notANumber (m e : Int) (s : UnpackedFloat.Sign) :
    UnpackedFloat.normalize Format.binary64 m e s ≠ .notANumber := by
  unfold UnpackedFloat.normalize
  split
  · exact roundWithAccuracy_ne_notANumber _ _ _ _
  · exact UnpackedFloat.noConfusion
  · exact roundWithAccuracy_ne_notANumber _ _ _ _

/-- A finite number other than zero has a mantissa. -/
theorem unpack_of_isFinite (h : y.isFinite = true) (hzero : (y == 0.0) = false) :
    ∃ s m e hm, y.toModel.unpack = .finite s m e hm := by
  have hunpack : (0.0 : Float).toModel.unpack = .zero .positive := rfl
  change y.toModel.unpack.beq (0.0 : Float).toModel.unpack = false at hzero
  unfold Float.isFinite Float.Model.isFinite at h
  rw [hunpack] at hzero
  generalize y.toModel.unpack = u at h hzero
  cases u with
  | finite s m e hm => exact ⟨s, m, e, hm, rfl⟩
  | zero s => cases hzero
  | _ => cases h

/-- What an operation gives for a finite number other than zero is defined when none of the other
numbers makes it NaN. -/
theorem isNaN_of_isFinite_operand {op : UnpackedFloat → UnpackedFloat → UnpackedFloat}
    (hop : ∀ u s m e hm, u ≠ .notANumber → op u (.finite s m e hm) ≠ .notANumber)
    (hx : x.isNaN = false) (hy : y.isFinite = true) (hzero : (y == 0.0) = false) :
    (Float.ofModel (pack (op x.toModel.unpack y.toModel.unpack))).isNaN = false := by
  obtain ⟨s, m, e, hm, hunpack⟩ := unpack_of_isFinite hy hzero
  rw [hunpack]
  exact isNaN_ofModel_pack (hop _ _ _ _ _ (unpack_ne_notANumber hx))

/-- The product with a finite number other than zero is defined. -/
theorem isNaN_mul_of_isFinite (hx : x.isNaN = false) (hy : y.isFinite = true)
    (hzero : (y == 0.0) = false) : (x * y).isNaN = false := by
  refine isNaN_of_isFinite_operand (fun u s m e hm hu => ?_) hx hy hzero
  cases u with
  | notANumber => exact absurd rfl hu
  | finite => exact roundWithAccuracy_ne_notANumber _ _ _ _
  | _ => exact UnpackedFloat.noConfusion

/-- The quotient with a finite number other than zero is defined. -/
theorem isNaN_div_of_isFinite (hx : x.isNaN = false) (hy : y.isFinite = true)
    (hzero : (y == 0.0) = false) : (x / y).isNaN = false := by
  refine isNaN_of_isFinite_operand (fun u s m e hm hu => ?_) hx hy hzero
  cases u with
  | notANumber => exact absurd rfl hu
  | finite => exact roundWithAccuracy_ne_notANumber _ _ _ _
  | _ => exact UnpackedFloat.noConfusion

theorem isNaN_abs (h : x.isNaN = true) : x.abs.isNaN = true := by
  have habs : x.abs = .ofModel (pack .notANumber) := by
    change Float.ofModel (pack x.toModel.unpack.abs) = _
    rw [unpack_of_isNaN h]
    rfl
  rw [habs, isNaN_pack]

/-- NaN equals nothing. -/
theorem beq_of_isNaN (h : x.isNaN = true) : (x == y) = false := by
  change x.toModel.unpack.beq y.toModel.unpack = false
  rw [unpack_of_isNaN h]
  rfl

/-- NaN is less than nothing. -/
theorem not_lt_of_isNaN (h : x.isNaN = true) : ¬ x < y := by
  intro hlt
  have hcompare : x.toModel.unpack.lt y.toModel.unpack = true := of_decide_eq_true hlt
  rw [unpack_of_isNaN h] at hcompare
  cases hcompare

/-! ## Whole numbers and decimals -/

theorem ofScientific_ne_notANumber (m : Nat) (e : Int) :
    UnpackedFloat.ofScientific Format.binary64 m e ≠ .notANumber := by
  unfold UnpackedFloat.ofScientific
  by_cases hm : m = 0
  · rw [dif_pos hm]
    exact UnpackedFloat.noConfusion
  rw [dif_neg hm]
  by_cases hlarge : e > 2 ^ Format.binary64.exponentBits
  · rw [if_pos hlarge]
    exact UnpackedFloat.noConfusion
  rw [if_neg hlarge]
  by_cases hsmall : e < -(2 ^ Format.binary64.exponentBits + (m.log2 : Int))
  · rw [if_pos hsmall]
    exact UnpackedFloat.noConfusion
  rw [if_neg hsmall]
  by_cases he : 0 ≤ e
  · rw [if_pos he]
    exact roundWithAccuracy_ne_notANumber _ _ _ _
  · rw [if_neg he]
    exact roundWithAccuracy_ne_notANumber _ _ _ _

/-- A decimal is defined. -/
theorem isNaN_ofScientific (m : Nat) (negative : Bool) (e : Nat) :
    (Float.ofScientific m negative e).isNaN = false := by
  unfold Float.ofScientific
  split
  next h =>
    have hm : m.toUInt64.toFloat.isNaN = false := isNaN_ofModel_pack (normalize_ne_notANumber _ _ _)
    have hpowers : ∀ y ∈ Float.exactlyRepresentablePowersOfTen,
        y.isFinite = true ∧ (y == 0.0) = false := by
      decide +kernel
    have he : e < Float.exactlyRepresentablePowersOfTen.size := Nat.lt_succ_of_le h.2
    obtain ⟨hfinite, hzero⟩ := hpowers _ (Array.getElem_mem he)
    cases negative with
    | true => exact isNaN_div_of_isFinite hm hfinite hzero
    | false => exact isNaN_mul_of_isFinite hm hfinite hzero
  next => exact isNaN_ofModel_pack (ofScientific_ne_notANumber _ _)

theorem isNaN_ofNat (n : Nat) : (Float.ofNat n).isNaN = false := isNaN_ofScientific n false 0

theorem isNaN_ofInt (n : Int) : (Float.ofInt n).isNaN = false := by
  cases n with
  | ofNat n => exact isNaN_ofNat n
  | negSucc n => exact isNaN_neg (isNaN_ofNat (n + 1))

end

/-! ## Numbers in texts -/

namespace Decimal

theorem isNaN_nearestFloat (digits : Nat) (exponent : Int) :
    (nearestFloat digits exponent).isNaN = false := by
  unfold nearestFloat
  dsimp only
  split
  · rfl
  · split
    · rfl
    · exact isNaN_ofScientific _ _ _

/-- A decimal that is read is defined. -/
theorem isNaN_of_read {cs : List Char} {x : Float} (h : read? cs = some x) : x.isNaN = false := by
  have hsigned (negative : Bool) (digits : Nat) (exponent : Int) :
      (signed negative (nearestFloat digits exponent)).isNaN = false := by
    cases negative with
    | false => exact isNaN_nearestFloat digits exponent
    | true => exact isNaN_neg (isNaN_nearestFloat digits exponent)
  simp only [read?] at h
  -- The number has a point or none, and nothing else is different.
  split at h
  all_goals
    split at h
    · cases h
    · obtain ⟨exponent, -, rfl⟩ := Option.map_eq_some_iff.1 h
      exact hsigned _ _ _

end Decimal

/-- The serial number of a moment is defined. -/
theorem Calendar.Moment.isNaN_serial (m : Moment) : m.serial.isNaN = false :=
  isNaN_div_of_isFinite (isNaN_ofInt _) rfl rfl

namespace Value

theorem isNaN_of_readPlain {cs : List Char} {x : Float} (h : readPlain? cs = some x) :
    x.isNaN = false := by
  unfold readPlain? at h
  split at h
  · split at h
    · exact Decimal.isNaN_of_read h
    · cases h
  · cases h

theorem isNaN_of_readReversed {afterPercent : Bool} {cs : List Char} {x : Float}
    (h : readReversed? afterPercent cs = some x) : x.isNaN = false := by
  induction cs generalizing afterPercent x with
  | nil => cases h
  | cons c cs ih =>
    simp only [readReversed?] at h
    split at h
    · obtain ⟨y, hy, rfl⟩ := Option.map_eq_some_iff.1 h
      exact isNaN_div_of_isFinite (ih hy) rfl rfl
    · split at h
      · exact ih h
      · exact isNaN_of_readPlain h

/-- A number that is read off a text is defined. -/
theorem isNaN_of_readNumber {s : String} {x : Float} (h : readNumber? s = some x) :
    x.isNaN = false :=
  isNaN_of_readReversed h

/-! ## Values -/

/-- Whether a value is NaN, with a format or without. -/
def isUndefined (v : Value) : Bool :=
  match v.raw with
  | .number x => x.isNaN
  | _ => false

@[simp] theorem isUndefined_number (x : Float) : (number x).isUndefined = x.isNaN := rfl

@[simp] theorem isUndefined_text (s : String) : (text s).isUndefined = false := rfl

@[simp] theorem isUndefined_boolean (b : Bool) : (boolean b).isUndefined = false := rfl

@[simp] theorem isUndefined_date (m : Calendar.Moment) : (date m).isUndefined = false := rfl

@[simp] theorem isUndefined_reference (r : Formula.Reference) :
    (reference r).isUndefined = false := rfl

@[simp] theorem isUndefined_formatted (v : Value) (format : String) :
    (formatted v format).isUndefined = v.isUndefined := rfl

theorem isUndefined_raw (v : Value) : v.raw.isUndefined = v.isUndefined := by
  induction v with
  | formatted v format ih => exact ih
  | _ => rfl

theorem isUndefined_ofContent {content : Grid.Content}
    (h : ∀ x, content = .number x → x.isNaN = false) : (ofContent content).isUndefined = false := by
  cases content with
  | number x => exact h x rfl
  | _ => rfl

/-- A number that a function is given is defined. -/
theorem isNaN_of_expectNumber {v : Value} {x : Float} (h : v.expectNumber = .ok x) :
    x.isNaN = false := by
  simp only [expectNumber] at h
  split at h
  next => cases h
  next hx =>
    cases h
    exact Bool.eq_false_iff.2 hx

/-! ## Aggregates -/

/-- The numbers in a list of values are defined. -/
theorem isNaN_of_mem_numbers {vs : List Value} {x : Float} (h : x ∈ numbers vs) :
    x.isNaN = false := by
  obtain ⟨v, -, hv⟩ := List.mem_filterMap.1 h
  unfold entryNumber? at hv
  split at hv
  next =>
    split at hv
    · cases hv
    next hx =>
      cases hv
      exact Bool.eq_false_iff.2 hx
  next m _ =>
    cases hv
    exact m.isNaN_serial
  next => exact isNaN_of_readNumber hv
  next => cases hv

/-- What chooses among defined numbers gives one of them, or zero if there are none. -/
theorem isNaN_reduce {f : Float → Float → Float} (hf : ∀ x y, f x y = x ∨ f x y = y)
    {xs : List Float} (h : ∀ x ∈ xs, x.isNaN = false) : (reduce f xs).isNaN = false := by
  cases xs with
  | nil =>
    have hzero : (0.0 : Float).isNaN = false := rfl
    exact hzero
  | cons x xs =>
    rw [List.forall_mem_cons] at h
    obtain ⟨hx, hxs⟩ := h
    change (xs.foldl f x).isNaN = false
    induction xs generalizing x with
    | nil => exact hx
    | cons y ys ih =>
      rw [List.forall_mem_cons] at hxs
      rw [List.foldl_cons]
      apply ih _ _ hxs.2
      rcases hf x y with hxy | hxy
      · rw [hxy]
        exact hx
      · rw [hxy]
        exact hxs.1

theorem greater_eq_or (x y : Float) : greater x y = x ∨ greater x y = y := by
  unfold greater
  split <;> simp

theorem lesser_eq_or (x y : Float) : lesser x y = x ∨ lesser x y = y := by
  unfold lesser
  split <;> simp

theorem isUndefined_momentOrNumber {wanted : Bool} {x : Float} (h : x.isNaN = false) :
    (momentOrNumber wanted x).isUndefined = false := by
  unfold momentOrNumber
  split
  · split
    · rfl
    · exact h
  · exact h

/-- Whether an aggregate only counts or compares. -/
def Aggregate.selects : Aggregate → Bool
  | .count | .countAll | .max | .min => true
  | _ => false

/-- Counting and comparing give defined values. -/
theorem Aggregate.isUndefined_apply {a : Aggregate} (ha : a.selects = true) {vs : List Value}
    {v : Value} (h : a.apply vs = .ok v) : v.isUndefined = false := by
  cases a with
  | max =>
    cases h
    exact isUndefined_momentOrNumber (isNaN_reduce greater_eq_or fun _ => isNaN_of_mem_numbers)
  | min =>
    cases h
    exact isUndefined_momentOrNumber (isNaN_reduce lesser_eq_or fun _ => isNaN_of_mem_numbers)
  | count =>
    cases h
    exact isNaN_ofNat _
  | countAll =>
    cases h
    exact isNaN_ofNat _
  | _ => cases ha

/-! ## Annuities -/

namespace Annuity

/-- At a rate that is NaN nothing is left over that is a number. -/
theorem isNaN_residual (a : Annuity) {rate : Float} (h : rate.isNaN = true) :
    (a.residual rate).isNaN = true := by
  have hbalance : (a.balance rate).isNaN = true := by
    unfold balance
    rw [beq_of_isNaN h]
    -- The growth may be one, as NaN to the power of zero is, but the payments are NaN.
    exact isNaN_add (.inl (isNaN_add (.inr (isNaN_div (.inr h)))))
  exact isNaN_div (.inl hbalance)

theorem isNaN_of_searchFrom {a : Annuity} {steps : Nat} {older olderResidual estimate x : Float}
    (h : a.searchFrom steps older olderResidual estimate = some x) : x.isNaN = false := by
  induction steps generalizing older olderResidual estimate with
  | zero => cases h
  | succ steps ih =>
    simp only [searchFrom] at h
    split at h
    next hzero =>
      -- The residual is zero at the estimate, so the estimate is defined.
      cases h
      rw [← Bool.not_eq_true]
      intro hx
      rw [beq_of_isNaN (a.isNaN_residual hx)] at hzero
      cases hzero
    next =>
      split at h
      · cases h
      · split at h
        next hclose =>
          split at h
          · obtain rfl := Option.some.inj h
            rw [← Bool.not_eq_true]
            exact fun hx => not_lt_of_isNaN (isNaN_abs (isNaN_sub (.inl hx))) hclose
          · cases h
        next => exact ih h

/-- A rate that is found is defined. -/
theorem isNaN_of_rate {a : Annuity} {guess x : Float} (h : a.rate guess = .ok x) :
    x.isNaN = false := by
  unfold rate at h
  split at h
  next y hy =>
    cases h
    exact isNaN_of_searchFrom hy
  next => cases h

end Annuity

end Value

end Spreadsheet
