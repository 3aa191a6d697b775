import Spreadsheet.Proofs.Decimal.Opposites
import Spreadsheet.Proofs.Value.NumberTexts

/-!
# Opposite numbers in their formats

The text of a negative number is that of its opposite behind a minus sign.  The
sign is left out where no digit but zero is shown, and so a number that is
rounded to zero has none (`any_fixed_eq`).  It is also left out where no digit is
shown at all, and so the two infinite numbers have the same text.
-/

namespace Spreadsheet.Value

open Spreadsheet.Decimal
open Spreadsheet.Text (isDigit)

variable {x y : Float} {kind : Char} {places : Nat} {format : String}

/-! ## What is shown -/

/-- The texts of opposite numbers differ in the minus sign only. -/
theorem unsignedText_eq_of_opposite (h : shape y = (shape x).opposite) :
    unsignedText kind y places = unsignedText kind x places := by
  unfold unsignedText magnitudeText
  rw [fixed_eq_of_opposite places h]

theorem hundred_eq : (100.0 : Float) = floatOf .positive 7036874417766400 (-46) := rfl

theorem canonical_hundred : Canonical 7036874417766400 (-46) :=
  ⟨by decide, by decide, .inl (by decide)⟩

theorem shape_shown_neg (kind : Char) (hx : x.isNaN = false) :
    shape (shown kind (-x)) = (shape (shown kind x)).opposite := by
  unfold shown
  split
  next =>
    rw [hundred_eq]
    exact shape_neg_mul hx canonical_hundred (by decide) (by decide)
  next => exact shape_neg hx

theorem zero_lt_shown (kind : Char) (hx : 0.0 < x) : 0.0 < shown kind x := by
  unfold shown
  split
  next =>
    rw [hundred_eq]
    exact zero_lt_mul hx canonical_hundred (by decide) (by decide) (by norm_num [valueOf])
  next => exact hx

/-! ## Texts of zero -/

/-- Whether a text shows zero: it has digits, and all of them are zeros. -/
def showsZero (cs : List Char) : Bool :=
  !(cs.filter isDigit).isEmpty && (cs.filter isDigit).all (· = '0')

/-- The digits of a number are those of its fixed number of places. -/
theorem filter_unsignedText (kind : Char) (x : Float) (places : Nat) :
    (unsignedText kind x places).filter isDigit = (fixed places x).filter isDigit := by
  have hmagnitude (grouping : Bool) :
      (magnitudeText x places grouping).filter isDigit = (fixed places x).filter isDigit :=
    filter_magnitudeText (by decide) grouping
  unfold unsignedText
  split
  next =>
    rw [List.filter_append, hmagnitude]
    exact List.append_nil _
  next =>
    split
    next =>
      rw [List.filter_cons_of_neg (by decide)]
      exact hmagnitude true
    next => exact hmagnitude _

example : showsZero "$0.00".toList = true := by decide +kernel

theorem nonzero_eq (c : Char) : ('1' ≤ c && c ≤ '9' : Bool) = (isDigit c && !(c = '0' : Bool)) := by
  have hzero : c = '0' ↔ c.toNat = 48 := ⟨fun h => h ▸ rfl, fun h => Char.toNat_inj.1 h⟩
  have hone : '1' ≤ c ↔ 49 ≤ c.toNat := Iff.rfl
  have hnine : c ≤ '9' ↔ c.toNat ≤ 57 := Iff.rfl
  rw [Bool.eq_iff_iff]
  simp only [isDigit, Bool.and_eq_true, Bool.not_eq_true', decide_eq_true_eq, decide_eq_false_iff_not,
    hzero, hone, hnine]
  omega

/-- A digit other than zero is missing when all digits are zeros. -/
theorem any_nonzero_eq (cs : List Char) :
    (cs.any fun c => '1' ≤ c && c ≤ '9') = !(cs.filter isDigit).all (· = '0') := by
  induction cs with
  | nil => rfl
  | cons c cs ih =>
    rw [List.any_cons, ih, nonzero_eq, List.filter_cons]
    cases isDigit c <;> simp

/-- A number that is not infinite has digits. -/
theorem filter_fixed_ne_nil (places : Nat) {b : Binary} (h : shape x = .finite b) :
    (fixed places x).filter isDigit ≠ [] := by
  obtain ⟨whole, fraction, hfixed, htext⟩ := exists_fixed places h
  obtain ⟨c, cs, rfl⟩ := List.exists_cons_of_ne_nil hfixed.ne_nil
  rw [htext, List.cons_append,
    List.filter_cons_of_pos (hfixed.isDigit_whole c (List.mem_cons_self ..))]
  exact List.cons_ne_nil _ _

/-- A digit other than zero is shown of finite numbers that do not show zero. -/
theorem any_fixed_eq (hx : x.isNaN = false) (kind : Char) (places : Nat) :
    ((fixed places x).any fun c => '1' ≤ c && c ≤ '9') =
      (x.isFinite && !showsZero (unsignedText kind x places)) := by
  rw [any_nonzero_eq, showsZero, filter_unsignedText]
  obtain ⟨hinfinite, negative, h⟩ | ⟨hfinite, b, h⟩ := shape_cases hx
  · rw [hinfinite, fixed_of_infinite places h]
    decide
  · rw [hfinite, List.isEmpty_eq_false_iff.2 (filter_fixed_ne_nil places h)]
    simp

/-! ## Signs -/

theorem signText_of_zero_lt (hx : 0.0 < x) (places : Nat) : signText x places = [] := by
  rw [signText, showsNegative, decide_eq_false (not_lt_zero_of_zero_lt hx)]
  rfl

/-- The sign of a negative number is written where its opposite is finite and does not show zero. -/
theorem signText_of_opposite (hx : 0.0 < x) (h : shape y = (shape x).opposite) (kind : Char)
    (places : Nat) :
    signText y places =
      if x.isFinite && !showsZero (unsignedText kind x places) then ['-'] else [] := by
  rw [signText, showsNegative, decide_eq_true ((lt_zero_iff_of_opposite h).2 hx),
    fixed_eq_of_opposite places h, any_fixed_eq (isNaN_of_zero_lt hx) kind, Bool.true_and]

/-- The text of a negative number is that of its opposite behind a minus sign, where the opposite is
finite in the format and does not show zero.  Otherwise the two texts are the same. -/
theorem display_neg (hx : 0.0 < x) (h : IsFormat kind places format) :
    ((number (-x)).display format).toList =
      if (shown kind x).isFinite && !showsZero ((number x).display format).toList then
        '-' :: ((number x).display format).toList
      else ((number x).display format).toList := by
  have hnumber := isNaN_of_zero_lt hx
  have hshape := shape_shown_neg kind hnumber
  have hshown := zero_lt_shown kind hx
  rw [toList_display (isNaN_neg hnumber) h, toList_display hnumber h,
    signText_of_zero_lt hshown, List.nil_append, signText_of_opposite hshown hshape kind,
    unsignedText_eq_of_opposite hshape]
  split <;> rfl

theorem display_neg_dollars :
    ((number (-1234.5)).display "c1").toList = '-' :: ((number 1234.5).display "c1").toList ∧
      (number 1234.5).display "c1" = "$1,234.5" :=
  ⟨(display_neg (show 0.0 < (1234.5 : Float) by decide +kernel)
    (show IsFormat 'c' 1 "c1" by decide +kernel)).trans (if_pos (by decide +kernel)),
    by decide +kernel⟩

/-- Infinity does not show zero, and yet its opposite has no sign. -/
theorem display_neg_infinity_ne :
    0.0 < (1.0 / 0.0 : Float) ∧ IsFormat 'n' 2 "n2" ∧
      showsZero ((number (1.0 / 0.0)).display "n2").toList = false ∧
      ((number (-(1.0 / 0.0))).display "n2").toList ≠
        '-' :: ((number (1.0 / 0.0)).display "n2").toList := by
  decide +kernel

end Spreadsheet.Value
