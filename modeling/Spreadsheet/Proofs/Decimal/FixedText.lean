import Spreadsheet.Decimal.Fixed
import Spreadsheet.Proofs.Decimal.Whole
import Spreadsheet.Proofs.Grid.AddressText

/-!
# The text of a fixed number of places

A finite float is written with at least one digit before its point and with as
many behind it as there are places, where no places leave out the point as well
(`exists_fixed`).  An infinite one is written in letters.
-/

namespace Spreadsheet.Decimal

open Spreadsheet.Text (isDigit)
open Spreadsheet.Grid (digitsOf_ne_nil isDigit_of_mem_digitsOf)

variable {x : Float} {b : Binary} {places : Nat} {whole fraction : List Char}

/-- A fraction behind its point, or nothing. -/
def pointed : List Char → List Char
  | [] => []
  | c :: cs => '.' :: c :: cs

theorem head?_pointed (fraction : List Char) : ∀ c ∈ (pointed fraction).head?, c = '.' := by
  cases fraction <;> simp [pointed]

/-- The digits before and behind the point. -/
structure IsFixed (places : Nat) (whole fraction : List Char) : Prop where
  /-- There is a digit before the point. -/
  ne_nil : whole ≠ []
  /-- Nothing but digits stands before it. -/
  isDigit_whole : ∀ c ∈ whole, isDigit c = true
  /-- Nothing but digits stands behind it. -/
  isDigit_fraction : ∀ c ∈ fraction, isDigit c = true
  /-- There are as many of them as places. -/
  length_fraction : fraction.length = places

theorem IsFixed.whole_ne_point (h : IsFixed places whole fraction) : ∀ c ∈ whole, c ≠ '.' := by
  rintro _ hc rfl
  exact absurd (h.isDigit_whole _ hc) (by decide)

/-- Nothing else than digits and the point is written. -/
theorem IsFixed.mem (h : IsFixed places whole fraction) {c : Char}
    (hc : c ∈ whole ++ pointed fraction) : isDigit c = true ∨ c = '.' := by
  rw [List.mem_append] at hc
  rcases hc with hc | hc
  · exact .inl (h.isDigit_whole c hc)
  · cases fraction with
    | nil => cases hc
    | cons d fraction =>
      rw [pointed, List.mem_cons] at hc
      exact hc.symm.imp_left (h.isDigit_fraction c)

/-! ## Padded digits -/

theorem length_padded (places n : Nat) : places < (padded places n).length := by
  have hdigits := List.length_pos_of_ne_nil (digitsOf_ne_nil n)
  simp only [padded, List.length_append, List.length_replicate]
  omega

theorem isDigit_of_mem_padded {n : Nat} {c : Char} (h : c ∈ padded places n) :
    isDigit c = true := by
  simp only [padded, List.mem_append, List.mem_replicate] at h
  rcases h with ⟨-, rfl⟩ | h
  · decide
  · exact isDigit_of_mem_digitsOf h

/-- With more digits than places the point stands between digits. -/
theorem positional_neg {digits : List Char} (h : places < digits.length) :
    positional digits (-(places : Int)) =
      digits.take (digits.length - places) ++ pointed (digits.drop (digits.length - places)) := by
  unfold positional
  obtain rfl | hplaces := Nat.eq_zero_or_pos places
  · simp [pointed]
  · have hdrop : digits.drop (digits.length - places) ≠ [] := by
      rw [← List.length_pos_iff, List.length_drop]
      omega
    obtain ⟨c, cs, hcs⟩ := List.exists_cons_of_ne_nil hdrop
    rw [if_neg (by omega), Int.neg_neg, Int.toNat_natCast, if_pos h, hcs]
    rfl

/-! ## Fixed texts -/

/-- A float other than NaN is infinite or has an exact value. -/
theorem shape_cases (hx : x.isNaN = false) :
    (x.isFinite = false ∧ ∃ negative, shape x = .infinite negative) ∨
      (x.isFinite = true ∧ ∃ b, shape x = .finite b) := by
  change x.toModel.unpack.isNaN = false at hx
  change (x.toModel.unpack.isFinite = false ∧ _) ∨ (x.toModel.unpack.isFinite = true ∧ _)
  rw [shape_eq]
  generalize x.toModel.unpack = u at hx
  cases u with
  | notANumber => cases hx
  | infinity s => exact .inl ⟨rfl, _, rfl⟩
  | zero s => exact .inr ⟨rfl, _, rfl⟩
  | finite s m e hm => exact .inr ⟨rfl, _, rfl⟩

theorem fixed_of_infinite {negative : Bool} (places : Nat) (h : shape x = .infinite negative) :
    fixed places x = ['i', 'n', 'f'] := by
  unfold fixed
  rw [h]

theorem exists_fixed (places : Nat) (h : shape x = .finite b) :
    ∃ whole fraction, IsFixed places whole fraction ∧
      fixed places x = whole ++ pointed fraction := by
  unfold fixed
  rw [h]
  dsimp only
  generalize roundHalfEven _ _ = n
  have hlength := length_padded places n
  refine ⟨_, _, ⟨?_, ?_, ?_, ?_⟩, positional_neg hlength⟩
  · rw [← List.length_pos_iff, List.length_take]
    omega
  · exact fun c hc => isDigit_of_mem_padded (List.mem_of_mem_take hc)
  · exact fun c hc => isDigit_of_mem_padded (List.mem_of_mem_drop hc)
  · rw [List.length_drop]
    omega

end Spreadsheet.Decimal
