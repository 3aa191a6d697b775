import Mathlib
import Spreadsheet.Value.Lookup

/-!
# Exact searches

What an exact search finds is the position of a key (`exactPosition?_lt`).  It
fails only for a text whose pattern is too large (`exactPosition?_eq_error`).

Patterns that are too large exist.  The automaton that reads forwards is as
large as its pieces together (`forward_bytes`), and every `?` takes 424 bytes of
it, so that no text with more than 24730 of them is a pattern
(`wholePattern_eq_error_of_count`).
-/

namespace Spreadsheet.Text.Automaton

/-! ## Sizes -/

theorem Size.bytes_plus (s t : Size) : (s.plus t).bytes = s.bytes + t.bytes := by
  simp only [Size.bytes, Size.plus]
  omega

theorem foldl_forward_bytes (parts : List Reading) (s : Size) :
    (parts.foldl (fun s r => s.plus r.forward) s).bytes =
      s.bytes + (parts.map fun r => r.forward.bytes).sum := by
  induction parts generalizing s with
  | nil => rfl
  | cons r parts ih =>
    rw [List.foldl_cons, ih, Size.bytes_plus, List.map_cons, List.sum_cons, Nat.add_assoc]

/-- The automaton that reads forwards is as large as its start and its pieces together. -/
theorem forward_bytes (isOpen : Bool) (parts : List Reading) :
    (forward isOpen parts).bytes =
      (forward isOpen []).bytes + (parts.map fun r => r.forward.bytes).sum :=
  foldl_forward_bytes parts _

/-- Every `?` takes 424 bytes. -/
theorem le_forward_ofText (isOpen : Bool) (s : String) :
    424 * s.toList.count '?' ≤
      (forward isOpen ((Glob.ofText s).map Reading.ofPiece)).bytes := by
  rw [forward_bytes, Glob.ofText]
  refine Nat.le_add_left_of_le ?_
  induction s.toList with
  | nil => exact Nat.zero_le _
  | cons c cs ih =>
    rw [List.map_cons, List.map_cons, List.map_cons, List.sum_cons, List.count_cons, Nat.mul_add,
      Nat.add_comm]
    refine Nat.add_le_add ?_ ih
    by_cases hc : c = '?'
    · subst hc
      have hline : (Reading.ofPiece .one).forward.bytes = 424 := by decide +kernel
      simp [hline]
    · simp [hc]

end Spreadsheet.Text.Automaton

namespace Spreadsheet.Value

open Spreadsheet.Formula (Error)
open Spreadsheet.Text (Glob.hasWildcards Glob.ofText)
open Spreadsheet.Text.Automaton (Reading fits forward sizeLimit le_forward_ofText)

/-! ## Refusals -/

/-- A pattern is refused for its size only. -/
theorem wholePattern_eq_error {s : String} {e : Error} (h : wholePattern s = .error e) :
    e = .argument .patternTooLarge := by
  unfold wholePattern checkSize at h
  dsimp only at h
  split at h
  · cases h
  · cases h
    rfl

/-- A text with too many `?` is refused. -/
theorem wholePattern_eq_error_of_count {s : String} (h : 24730 < s.toList.count '?') :
    wholePattern s = .error (.argument .patternTooLarge) := by
  have hsize : sizeLimit < (forward false ((Glob.ofText s).map Reading.ofPiece)).bytes := by
    have := le_forward_ofText false s
    unfold sizeLimit
    omega
  have hfits : fits false (Glob.ofText s) = false := by
    simp only [fits, Bool.and_eq_false_iff, decide_eq_false_iff_not, Nat.not_le]
    exact .inr hsize
  unfold wholePattern checkSize
  simp only [hfits]
  rfl

/-! ## Positions -/

/-- An exact search finds one of the keys. -/
theorem exactPosition?_lt {sought : Value} {keys : List Value} {p : Nat}
    (h : exactPosition? sought keys = .ok (some p)) : p < keys.length := by
  have hfound {f : Value → Bool} (hp : keys.findIdx? f = some p) : p < keys.length :=
    (List.findIdx?_eq_some_iff_findIdx_eq.1 hp).1
  unfold exactPosition? at h
  split at h
  next s _ =>
    split at h
    · cases hpattern : wholePattern s with
      | error e =>
        rw [hpattern] at h
        cases h
      | ok pattern =>
        rw [hpattern] at h
        exact hfound (Except.ok.inj h)
    · exact hfound (Except.ok.inj h)
  · exact hfound (Except.ok.inj h)

/-- An exact search fails only where its pattern is refused. -/
theorem exactPosition?_eq_error {sought : Value} {keys : List Value} {e : Error}
    (h : exactPosition? sought keys = .error e) :
    ∃ s, sought.raw = .text s ∧ wholePattern s = .error (.argument .patternTooLarge) ∧
      e = .argument .patternTooLarge := by
  unfold exactPosition? at h
  split at h
  next s hs =>
    split at h
    · cases hpattern : wholePattern s with
      | error e' =>
        rw [hpattern] at h
        cases h
        cases wholePattern_eq_error hpattern
        exact ⟨s, hs, hpattern, rfl⟩
      | ok pattern =>
        rw [hpattern] at h
        cases h
    · cases h
  · cases h

/-- A search for a text with too many `?` fails. -/
theorem exactPosition?_eq_error_of_count {s : String} (h : 24730 < s.toList.count '?')
    (keys : List Value) :
    exactPosition? (.text s) keys = .error (.argument .patternTooLarge) := by
  have hwildcards : Glob.hasWildcards s = true := by
    rw [Glob.hasWildcards, List.any_eq_true]
    exact ⟨'?', List.count_pos_iff.1 (by omega), rfl⟩
  simp only [exactPosition?, raw, hwildcards, wholePattern_eq_error_of_count h]
  rfl

end Spreadsheet.Value
