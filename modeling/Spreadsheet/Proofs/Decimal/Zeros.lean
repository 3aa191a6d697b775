import Mathlib
import Spreadsheet.Proofs.Decimal.Sums

/-!
# Sums with zeros

There are two zeros, which compare as equal and behave differently under
division.  Adding either of them to another number does not change it, and the
sum of two zeros is a zero (`SameNumber.add_zero`).  So sums from the left that
differ in zeros only are the same number, with the sign of zero left aside
(`SameNumber.foldl_filterMap`).
-/

namespace Spreadsheet.Decimal

open Float.Model UnpackedFloat

variable {x y z : Float}

/-- Floats are the same number when they are equal or zeros of any signs. -/
def SameNumber (x y : Float) : Prop := x = y ∨ ((x == 0.0) = true ∧ (y == 0.0) = true)

/-- Zeros are what unpacks as zero. -/
theorem beq_zero_iff : (x == 0.0) = true ↔ ∃ s, x.toModel.unpack = .zero s := by
  have hunpack : (0.0 : Float).toModel.unpack = .zero .positive := rfl
  change x.toModel.unpack.beq (0.0 : Float).toModel.unpack = true ↔ _
  rw [hunpack, beq_iff_ne_notANumber_and_eq]
  constructor
  · rintro ⟨-, -, h | ⟨h, -⟩ | ⟨h, -⟩⟩
    · exact ⟨_, h⟩
    · exact ⟨_, h⟩
    · exact ⟨_, h⟩
  · rintro ⟨s, h⟩
    cases s <;> simp [h]

/-- To pack what a number unpacks as gives the number. -/
theorem pack_unpack_toModel (x : Float) : Float.Model.pack x.toModel.unpack = x.toModel := by
  obtain ⟨⟨b, hvalid⟩⟩ := x
  have hbits : UInt64.ofBitVec (UnpackedFloat.pack Format.binary64
      (UnpackedFloat.unpack Format.binary64 b.toBitVec)) = b := by
    rw [pack_unpack_of_valid hvalid]
  exact (Float.Model.mk.injEq ..).mpr hbits

/-- A sum with a zero unpacks as the other number, unless this is a zero as well. -/
theorem add_zero_cases (u : UnpackedFloat) (s : Sign) :
    (∃ t, u = .zero t) ∨
      (UnpackedFloat.add Format.binary64 u (.zero s) = u ∧
        UnpackedFloat.add Format.binary64 (.zero s) u = u) := by
  cases u with
  | zero t => exact .inl ⟨t, rfl⟩
  | _ => exact .inr ⟨rfl, rfl⟩

/-- The sum of two zeros is a zero. -/
theorem add_zeros (hx : (x == 0.0) = true) (hy : (y == 0.0) = true) : (x + y == 0.0) = true := by
  obtain ⟨s, hs⟩ := beq_zero_iff.1 hx
  obtain ⟨t, ht⟩ := beq_zero_iff.1 hy
  rw [beq_zero_iff, toModel_add, hs, ht]
  cases s <;> cases t <;> exact ⟨_, rfl⟩

namespace SameNumber

theorem symm (h : SameNumber x y) : SameNumber y x := by
  obtain rfl | ⟨hx, hy⟩ := h
  · exact .inl rfl
  · exact .inr ⟨hy, hx⟩

theorem trans (h : SameNumber x y) (h' : SameNumber y z) : SameNumber x z := by
  obtain rfl | ⟨hx, hy⟩ := h
  · exact h'
  obtain rfl | ⟨-, hz⟩ := h'
  · exact .inr ⟨hx, hy⟩
  · exact .inr ⟨hx, hz⟩

/-- A zero that is added on either side leaves a number the same. -/
theorem add_zero (hy : (y == 0.0) = true) : SameNumber (x + y) x ∧ SameNumber (y + x) x := by
  obtain ⟨s, hs⟩ := beq_zero_iff.1 hy
  obtain ⟨t, ht⟩ | ⟨hright, hleft⟩ := add_zero_cases x.toModel.unpack s
  · have hx : (x == 0.0) = true := beq_zero_iff.2 ⟨t, ht⟩
    exact ⟨.inr ⟨add_zeros hx hy, hx⟩, .inr ⟨add_zeros hy hx, hx⟩⟩
  · constructor
    · exact .inl (eq_of_toModel (by rw [toModel_add, hs, hright, pack_unpack_toModel]))
    · exact .inl (eq_of_toModel (by rw [toModel_add, hs, hleft, pack_unpack_toModel]))

/-- Adding keeps numbers the same. -/
theorem add_right (h : SameNumber x y) (z : Float) : SameNumber (x + z) (y + z) := by
  obtain rfl | ⟨hx, hy⟩ := h
  · exact .inl rfl
  · exact (add_zero hx).2.trans (add_zero hy).2.symm

/-- Sums from the left are the same when their terms are, or a zero is a term of one of them
only. -/
theorem foldl_filterMap {α : Type} {f g : α → Option Float} {l : List α}
    (h : ∀ a ∈ l, f a = g a ∨ ∃ z, f a = some z ∧ (z == 0.0) = true ∧ g a = none)
    (hxy : SameNumber x y) :
    SameNumber ((l.filterMap f).foldl (· + ·) x) ((l.filterMap g).foldl (· + ·) y) := by
  induction l generalizing x y with
  | nil => exact hxy
  | cons a l ih =>
    obtain ⟨ha, hl⟩ := List.forall_mem_cons.1 h
    obtain hsame | ⟨z, hf, hz, hg⟩ := ha
    · cases hg : g a with
      | none =>
        rw [List.filterMap_cons_none (hsame.trans hg), List.filterMap_cons_none hg]
        exact ih hl hxy
      | some z =>
        rw [List.filterMap_cons_some (hsame.trans hg), List.filterMap_cons_some hg]
        exact ih hl (hxy.add_right z)
    · rw [List.filterMap_cons_some hf, List.filterMap_cons_none hg]
      exact ih hl ((add_zero hz).1.trans hxy)

end SameNumber

end Spreadsheet.Decimal
