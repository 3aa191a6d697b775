import Spreadsheet.Value.Coercion

/-!
# Texts of errors are no numbers

An error that a formula meets becomes a text that begins with `Error: `.  Where
such a text stands in the place of a number it counts NaN, since no number
begins with a letter.  NaN goes through the four basic operations, so the text
of an error cannot become a number again by arithmetic.
-/

namespace Spreadsheet

/-! ## Arithmetic with NaN -/

section

open Float.Model

variable {x y : Float}

theorem unpack_of_isNaN (h : x.isNaN = true) : x.toModel.unpack = .notANumber := by
  unfold Float.isNaN Float.Model.isNaN at h
  generalize x.toModel.unpack = u at h
  cases u with
  | notANumber => rfl
  | _ => cases h

theorem isNaN_pack : (Float.ofModel (pack .notANumber)).isNaN = true := by decide

/-- An operation that passes NaN on gives NaN where one of the numbers is. -/
theorem isNaN_of_operand {op : UnpackedFloat → UnpackedFloat → UnpackedFloat}
    (hleft : ∀ v, op .notANumber v = .notANumber) (hright : ∀ u, op u .notANumber = .notANumber)
    (h : x.isNaN = true ∨ y.isNaN = true) :
    (Float.ofModel (pack (op x.toModel.unpack y.toModel.unpack))).isNaN = true := by
  have hop : op x.toModel.unpack y.toModel.unpack = .notANumber := by
    obtain h | h := h <;> rw [unpack_of_isNaN h]
    · exact hleft _
    · exact hright _
  rw [hop, isNaN_pack]

/-- Adding is NaN where one of the numbers is. -/
theorem isNaN_add (h : x.isNaN = true ∨ y.isNaN = true) : (x + y).isNaN = true :=
  isNaN_of_operand (fun _ => rfl) (fun u => by cases u <;> rfl) h

/-- Subtracting is NaN where one of the numbers is. -/
theorem isNaN_sub (h : x.isNaN = true ∨ y.isNaN = true) : (x - y).isNaN = true :=
  isNaN_of_operand (fun _ => rfl) (fun u => by cases u <;> rfl) h

/-- Multiplying is NaN where one of the numbers is. -/
theorem isNaN_mul (h : x.isNaN = true ∨ y.isNaN = true) : (x * y).isNaN = true :=
  isNaN_of_operand (fun _ => rfl) (fun u => by cases u <;> rfl) h

/-- Dividing is NaN where one of the numbers is. -/
theorem isNaN_div (h : x.isNaN = true ∨ y.isNaN = true) : (x / y).isNaN = true :=
  isNaN_of_operand (fun _ => rfl) (fun u => by cases u <;> rfl) h

end

/-! ## Texts of errors -/

namespace Value

theorem isBlank_letter : Text.isBlank 'E' = false := by decide

theorem trimStart_letter (cs : List Char) : Text.trimStart ('E' :: cs) = 'E' :: cs :=
  List.dropWhile_cons_of_neg (by simp [isBlank_letter])

theorem readPlain?_letter (cs : List Char) : readPlain? ('E' :: cs) = none := by
  unfold readPlain?
  rw [List.dropWhile_cons_of_neg (by decide)]
  rfl

/-- What begins with a letter is no number, with percent signs behind it or not. -/
theorem readReversed?_letter (afterPercent : Bool) (cs : List Char) :
    readReversed? afterPercent (cs ++ ['E']) = none := by
  induction cs generalizing afterPercent with
  | nil => simp [readReversed?, isBlank_letter, trimStart_letter, readPlain?_letter]
  | cons c cs ih =>
    simp only [List.cons_append, readReversed?]
    split
    · rw [ih, Option.map_none]
    · split
      · exact ih true
      · have hreverse : (c :: (cs ++ ['E'])).reverse = 'E' :: (c :: cs).reverse := by simp
        rw [hreverse, trimStart_letter, ite_self, readPlain?_letter]

theorem dropWhile_letter (cs : List Char) :
    ∃ ds, (cs ++ ['E']).dropWhile Text.isBlank = ds ++ ['E'] := by
  induction cs with
  | nil => exact ⟨[], by simp [isBlank_letter]⟩
  | cons c cs ih =>
    rw [List.cons_append, List.dropWhile_cons]
    split
    · exact ih
    · exact ⟨c :: cs, rfl⟩

/-- A text that begins with a letter counts NaN. -/
theorem isNaN_numberOfText {s : String} {cs : List Char} (h : s.toList = 'E' :: cs) :
    (numberOfText s).isNaN = true := by
  obtain ⟨ds, hds⟩ := dropWhile_letter cs.reverse
  have htrim : (Text.trim s).toList.reverse = ds ++ ['E'] := by
    simp only [Text.trim, Text.trimEnd, h, trimStart_letter, String.toList_ofList,
      List.reverse_reverse, List.reverse_cons, hds]
  have hempty : (Text.trim s).isEmpty = false := by
    cases hs : (Text.trim s).isEmpty with
    | false => rfl
    | true =>
      rw [String.isEmpty_iff.1 hs] at htrim
      cases ds <;> cases htrim
  have hread : readNumber? (Text.trim s) = none := by
    rw [readNumber?, htrim, readReversed?_letter]
  have hnan : nan.isNaN = true := by decide +kernel
  unfold numberOfText
  dsimp only
  rw [hempty, hread]
  exact hnan

/-- A text that an error has become. -/
def IsErrorText (v : Value) : Prop := ∃ message, v = .text ("Error: " ++ message)

/-- The text of an error counts NaN. -/
theorem IsErrorText.isNaN {v : Value} (h : v.IsErrorText) : v.toNumber.isNaN = true := by
  obtain ⟨message, rfl⟩ := h
  have hlist : ("Error: " ++ message).toList = 'E' :: ("rror: ".toList ++ message.toList) := by
    rw [String.toList_append]
    rfl
  have hnumber := isNaN_numberOfText hlist
  generalize "Error: " ++ message = s at hnumber
  exact hnumber

end Value

end Spreadsheet
