import Spreadsheet.Proofs.Decimal.Shifts

/-!
# Rounding to places twice

To round to places, the point is moved, the number is rounded to a whole one, and
the point is moved back.  Doing this twice scales a whole number back and scales
it again, as `ThereAndBack` has it, unless a number becomes too large on the way and
nothing changes any more (`settled_or_thereAndBack`).  So the second time a number
only changes if it slips past the whole number (`roundTo_roundTo_iff`).

Without places nothing slips (`not_slips_zero`), and neither does what is rounded to
the nearest number with at most 51 binary digits (`not_slips_nearest`).
-/

namespace Spreadsheet.Decimal

open Float.Model UnpackedFloat

variable {mode : Rounding} {m : ℕ} {e places : ℤ} {x : Float}

/-- A number that is rounded to places, or left as it is where the point cannot be moved so far. -/
def roundTo (mode : Rounding) (places : ℤ) (x : Float) : Float := (roundTo? mode x places).getD x

/-- The second time a number is rounded to places, it slips past the whole number that it was
rounded to the first time. -/
def Slips (mode : Rounding) (places : ℤ) (x : Float) : Prop :=
  (shift x places).isFinite = true ∧
    mode.Passes (magnitude (mode.apply (shift x places)))
      (magnitude (shift (roundTo mode places x) places))

theorem roundTo_of_finite (h : (shift x places).isFinite = true) :
    roundTo mode places x = shift (mode.apply (shift x places)) (-places) := by
  rw [roundTo, roundTo?]
  rw [if_pos h, Option.getD_some]

theorem roundTo_of_infinite (h : (shift x places).isFinite = false) :
    roundTo mode places x = x := by
  rw [roundTo, roundTo?]
  rw [if_neg (by rw [h]; exact Bool.false_ne_true), Option.getD_none]

/-- Where the point can no longer be moved so far, nothing slips. -/
theorem not_slips_of_infinite (h : (shift (roundTo mode places x) places).isFinite = false) :
    ¬ Slips mode places x := by
  rintro ⟨-, hpasses⟩
  rw [magnitude_of_not_isFinite h] at hpasses
  exact hpasses.1 0 Nat.cast_zero.symm

section

variable (hplaces : places.natAbs ≤ 308)
include hplaces

/-- Rounding scales a number, takes a whole number and scales this back. -/
theorem roundTo_floatOf (mode : Rounding) (s : Sign) (h : Canonical m e) (he : e ≤ 971)
    (hfinite : (shift (floatOf s m e) places).isFinite = true) :
    ∃ m₁ e₁ m' e', RoundsTo (valueOf m e * scale places) m₁ e₁ ∧ e₁ ≤ 971 ∧
      shift (floatOf s m e) places = floatOf s m₁ e₁ ∧
      magnitude (mode.apply (floatOf s m₁ e₁)) = mode.whole (valueOf m₁ e₁) ∧
      RoundsTo (mode.whole (valueOf m₁ e₁) / scale places) m' e' ∧
      roundTo mode places (floatOf s m e) = floatOf s m' e' := by
  rw [roundTo_of_finite hfinite]
  obtain ⟨m₁, e₁, hround, hshift⟩ := shift_floatOf hplaces s h he
  rw [hshift, isFinite_floatOf s hround.canonical] at hfinite
  obtain ⟨m₂, e₂, hcanonical, he₂, hvalue, happly⟩ :=
    apply_floatOf mode s hround.canonical hfinite
  obtain ⟨m', e', hback, hshift'⟩ :=
    shift_floatOf (show (-places).natAbs ≤ 308 by omega) s hcanonical he₂
  rw [scale_neg, ← div_eq_mul_inv, hvalue] at hback
  refine ⟨m₁, e₁, m', e', hround, hfinite, hshift, ?_, hback, ?_⟩
  · rw [happly, magnitude_floatOf s hcanonical he₂, hvalue]
  · rw [hshift, happly, hshift']

/-- A number that is rounded twice stays the same, or it is scaled there and back. -/
theorem settled_or_thereAndBack (hx : x.isFinite = true) (mode : Rounding) :
    roundTo mode places (roundTo mode places x) = roundTo mode places x ∧ ¬ Slips mode places x ∨
      ∃ n m e m' e', ThereAndBack mode (scale places) n m e m' e' ∧
        magnitude (mode.apply (shift x places)) = n ∧
        (Slips mode places x ↔ mode.Passes n (valueOf m' e')) ∧
        (roundTo mode places (roundTo mode places x) = roundTo mode places x ↔
          RoundsTo (mode.whole (valueOf m' e') / scale places) m e) := by
  obtain ⟨s, m₀, e₀, h₀, he₀, rfl⟩ := exists_floatOf hx
  cases hfirst : (shift (floatOf s m₀ e₀) places).isFinite with
  | false =>
    rw [roundTo_of_infinite hfirst, roundTo_of_infinite hfirst]
    exact .inl ⟨rfl, fun hslips => Bool.false_ne_true (hfirst.symm.trans hslips.1)⟩
  | true =>
    obtain ⟨m₁, e₁, m, e, hthere, he₁, hshift, hmagnitude, hback, hround⟩ :=
      roundTo_floatOf hplaces mode s h₀ he₀ hfirst
    cases hsecond : (shift (roundTo mode places (floatOf s m₀ e₀)) places).isFinite with
    | false => exact .inl ⟨roundTo_of_infinite hsecond, not_slips_of_infinite hsecond⟩
    | true =>
      right
      have he : e ≤ 971 := by
        rw [← isFinite_floatOf s hback.canonical, ← hround]
        by_contra hinfinite
        rw [Bool.not_eq_true] at hinfinite
        rw [isFinite_shift hplaces hinfinite] at hsecond
        cases hsecond
      rw [hround] at hsecond
      obtain ⟨m', e', m'', e'', hagain, he', hshift', -, hback', hround'⟩ :=
        roundTo_floatOf hplaces mode s hback.canonical he hsecond
      refine ⟨_, m, e, m', e', ⟨isScale_scale hplaces, ⟨m₀, e₀, m₁, e₁, h₀, hthere, rfl⟩, hback,
        hagain⟩, by rw [hshift, hmagnitude], ?_, ?_⟩
      · rw [Slips, hround, hshift', hshift, hmagnitude, magnitude_floatOf s hagain.canonical he',
          ← hshift, hfirst]
        exact and_iff_right rfl
      · rw [hround, hround']
        constructor
        · intro heq
          obtain ⟨rfl, rfl⟩ := floatOf_inj hback.canonical he hback'.canonical heq.symm
          exact hback'
        · intro hsame
          obtain ⟨rfl, rfl⟩ := hback'.unique hsame
          rfl

/-- Rounding a number twice is rounding it once, unless it slips. -/
theorem roundTo_roundTo_iff (hx : x.isFinite = true) (mode : Rounding) :
    roundTo mode places (roundTo mode places x) = roundTo mode places x ↔
      ¬ Slips mode places x := by
  obtain ⟨hsettled, hslips⟩ | ⟨n, m, e, m', e', h, -, hslips, hsame⟩ :=
    settled_or_thereAndBack hplaces hx mode
  · exact iff_of_true hsettled hslips
  · rw [hsame, hslips, h.roundsTo_iff]

/-- To the nearest number with at most 51 binary digits nothing slips. -/
theorem not_slips_nearest (hx : x.isFinite = true)
    (hdigits : magnitude (nearest (shift x places)) < 2 ^ 51) : ¬ Slips .nearest places x := by
  obtain ⟨-, hslips⟩ | ⟨n, m, e, m', e', h, hn, hslips, -⟩ :=
    settled_or_thereAndBack hplaces hx .nearest
  · exact hslips
  · rw [hslips]
    refine h.not_passes_nearest ?_
    have hcast : (n : ℚ) < 2 ^ 51 := hn ▸ hdigits
    exact_mod_cast hcast

end

example : shift 1.14 2 = 113.99999999999999 ∧ roundTo .down 2 1.14 = 1.13 := by decide +kernel

/-- Without places nothing slips. -/
theorem not_slips_zero (hx : x.isFinite = true) (mode : Rounding) : ¬ Slips mode 0 x := by
  obtain ⟨-, hslips⟩ | ⟨n, m, e, m', e', h, -, hslips, -⟩ :=
    settled_or_thereAndBack (show (0 : ℤ).natAbs ≤ 308 by decide) hx mode
  · exact hslips
  · rw [hslips]
    refine h.not_passes_of_exact ?_
    obtain ⟨m₁, e₁, hcanonical, hvalue⟩ := h.exists_canonical
    have hback := h.back
    rw [scale_zero, div_one, ← hvalue] at hback
    obtain ⟨rfl, rfl⟩ := hback.unique hcanonical.roundsTo
    rw [scale_zero, mul_one, hvalue]

end Spreadsheet.Decimal
