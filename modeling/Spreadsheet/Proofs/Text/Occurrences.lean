import Mathlib.Data.List.Infix
import Mathlib.Order.Bounds.Defs
import Spreadsheet.Text.Occurrence

/-!
# Where a text occurs

A text occurs at a position of another one if the rest of that text begins with it
there (`OccursAt`).  Occurrences may overlap.  A search tries the rest of the text
from each position on, the end included, and takes the first one that passes its
test.  So what it comes to is the least position (`isLeast_of_findIdx?_tails`), and
where it comes to nothing no position passes (`eq_false_of_findIdx?_tails`).
-/

namespace Spreadsheet.Text

/-! ## The first position that passes a test -/

section

variable {test : List Char → Bool} {cs : List Char} {k : Nat}

/-- What a search from a position on comes to is the least position that passes. -/
theorem isLeast_of_findIdx?_tails (hlow : 1 ≤ k) {i : Nat}
    (h : (cs.drop (k - 1)).tails.findIdx? test = some i) :
    IsLeast {p | k ≤ p ∧ test (cs.drop (p - 1)) = true} (k + i) := by
  rw [List.findIdx?_eq_some_iff_getElem] at h
  obtain ⟨hi, hpasses, hbefore⟩ := h
  rw [List.getElem_tails, List.drop_drop] at hpasses
  constructor
  · refine ⟨Nat.le_add_right k i, ?_⟩
    rwa [show k + i - 1 = k - 1 + i by omega]
  · rintro p ⟨hp, htest⟩
    obtain ⟨j, rfl⟩ := Nat.exists_eq_add_of_le hp
    by_contra hlt
    have hnot := hbefore j (by omega)
    rw [List.getElem_tails, List.drop_drop, show k - 1 + j = k + j - 1 by omega] at hnot
    exact hnot htest

/-- Where a search from a position on comes to nothing, no position passes. -/
theorem eq_false_of_findIdx?_tails (hlow : 1 ≤ k)
    (h : (cs.drop (k - 1)).tails.findIdx? test = none) {p : Nat} (hp : k ≤ p) :
    test (cs.drop (p - 1)) = false := by
  obtain ⟨j, rfl⟩ := Nat.exists_eq_add_of_le hp
  rw [show k + j - 1 = k - 1 + j by omega, ← List.drop_drop]
  rw [List.findIdx?_eq_none_iff] at h
  exact h _ ((List.mem_tails _ _).2 (List.drop_suffix j _))

end

/-! ## Occurrences -/

/-- A text begins at a position of another one, counted from one. -/
def OccursAt (needle cs : List Char) (p : Nat) : Prop :=
  1 ≤ p ∧ needle <+: cs.drop (p - 1)

instance (needle cs : List Char) (p : Nat) : Decidable (OccursAt needle cs p) :=
  inferInstanceAs (Decidable (1 ≤ p ∧ needle <+: cs.drop (p - 1)))

section

variable {needle cs : List Char} {k p : Nat}

theorem occursAt_iff (hp : 1 ≤ p) :
    OccursAt needle cs p ↔ needle.isPrefixOf (cs.drop (p - 1)) = true :=
  (and_iff_right hp).trans List.isPrefixOf_iff_prefix.symm

/-- A text occurs where a part of its own length is the text. -/
theorem occursAt_iff_take (hp : 1 ≤ p) :
    OccursAt needle cs p ↔ (cs.drop (p - 1)).take needle.length = needle := by
  rw [OccursAt, and_iff_right hp, List.prefix_iff_eq_take, eq_comm]

/-- A search tries the rest of the text from each position on. -/
theorem position?_eq_findIdx? (needle cs : List Char) :
    position? needle cs = cs.tails.findIdx? needle.isPrefixOf := by
  induction cs with
  | nil => cases needle <;> rfl
  | cons c cs ih => rw [position?_cons, List.tails_cons, List.findIdx?_cons, ih]

/-- What is found from a position on is the least position where the text occurs. -/
theorem isLeast_of_position? (hlow : 1 ≤ k) {i : Nat}
    (h : position? needle (cs.drop (k - 1)) = some i) :
    IsLeast {p | k ≤ p ∧ OccursAt needle cs p} (k + i) := by
  rw [position?_eq_findIdx?] at h
  have hset : {p | k ≤ p ∧ OccursAt needle cs p} =
      {p | k ≤ p ∧ needle.isPrefixOf (cs.drop (p - 1)) = true} :=
    Set.ext fun p => and_congr_right fun hp => occursAt_iff (hlow.trans hp)
  rw [hset]
  exact isLeast_of_findIdx?_tails hlow h

/-- Where nothing is found from a position on, the text does not occur. -/
theorem not_occursAt_of_position? (hlow : 1 ≤ k)
    (h : position? needle (cs.drop (k - 1)) = none) (hp : k ≤ p) : ¬ OccursAt needle cs p := by
  rw [position?_eq_findIdx?] at h
  rw [occursAt_iff (hlow.trans hp), eq_false_of_findIdx?_tails hlow h hp]
  exact Bool.false_ne_true

/-- A text that is not empty ends within the one in which it occurs. -/
theorem add_length_le_of_occursAt (hneedle : needle ≠ []) (h : OccursAt needle cs p) :
    p - 1 + needle.length ≤ cs.length := by
  have hle := h.2.length_le
  rw [List.length_drop] at hle
  have hpos := List.length_pos_iff.2 hneedle
  omega

end

end Spreadsheet.Text
