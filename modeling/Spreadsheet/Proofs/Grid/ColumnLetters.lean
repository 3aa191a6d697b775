import Mathlib.Data.List.Induction
import Mathlib.Data.List.Shortlex
import Mathlib.Data.Nat.Digits.Defs
import Mathlib.Data.String.Basic
import Spreadsheet.Grid.Column

/-!
# Columns and their letters

Letters are a number in base 26 whose digits are one to 26 (`lettersNumber`).
There is no zero digit, so no two texts of letters count the same unless they
differ in case only, and every number is counted by one.

* Reading letters gives what they count, or refuses them when that is not below
  `indexLimit` (`columnOfLetters_eq`).  It compares with the limit after every
  letter, which makes no difference because more letters never count less.
* Writing and reading are inverse to each other, up to case
  (`lettersNumber_lettersOf`, `lettersOf_lettersNumber`).
* The order of the columns is that of their letters: the shorter text comes
  first, and of two that are equally long the one that the alphabet has first
  (`lt_iff_shortlex_lettersOf`).

All of these are inductions on the last letter.  It makes up for the remainder
that dividing by 26 leaves, and the letters before it for the quotient.
-/

namespace Spreadsheet.Text

/-! ## Code points -/

/-- What is true of all code points below a bound is true of all characters. -/
theorem forall_ofNat_iff {p : Char → Prop} {bound : Nat} :
    (∀ n < bound, p (Char.ofNat n)) ↔ ∀ c : Char, c.toNat < bound → p c := by
  constructor
  · intro h c hc
    have hp := h c.toNat hc
    rwa [Char.ofNat_toNat] at hp
  · intro h n hn
    refine h _ (Nat.lt_of_le_of_lt ?_ hn)
    by_cases hvalid : n.isValidChar
    · rw [Char.ofNat, dif_pos hvalid]
      exact Nat.le_refl n
    · rw [Char.ofNat, dif_neg hvalid]
      exact Nat.zero_le n

instance decidableForallToNatLt {p : Char → Prop} [DecidablePred p] (bound : Nat) :
    Decidable (∀ c : Char, c.toNat < bound → p c) :=
  decidable_of_iff _ forall_ofNat_iff

variable {c : Char}

theorem toNat_lt_of_isAsciiLetter (h : isAsciiLetter c = true) : c.toNat < 128 := by
  simp only [isAsciiLetter, Bool.or_eq_true, Bool.and_eq_true, decide_eq_true_eq] at h
  omega

theorem toNat_lt_of_isDigit (h : isDigit c = true) : c.toNat < 128 := by
  simp only [isDigit, Bool.and_eq_true, decide_eq_true_eq] at h
  omega

end Spreadsheet.Text

namespace Spreadsheet.Grid

open Spreadsheet.Text (isAsciiLetter toNat_lt_of_isAsciiLetter)

/-! ## Counting -/

/-- What letters count: a number in base 26, the last digit of which comes last. -/
def lettersNumber (letters : List Char) : Nat := Nat.ofDigits 26 (letters.map letterValue).reverse

theorem lettersNumber_nil : lettersNumber [] = 0 := rfl

theorem lettersNumber_concat (letters : List Char) (c : Char) :
    lettersNumber (letters ++ [c]) = 26 * lettersNumber letters + letterValue c := by
  rw [lettersNumber, List.map_append, List.reverse_append, List.map_singleton,
    List.reverse_singleton, List.singleton_append, Nat.ofDigits_cons, Nat.add_comm]
  rfl

theorem lettersNumber_cons (c : Char) (letters : List Char) :
    lettersNumber (c :: letters) =
      26 ^ letters.length * letterValue c + lettersNumber letters := by
  rw [lettersNumber, List.map_cons, List.reverse_cons, Nat.ofDigits_append, Nat.ofDigits_singleton,
    List.length_reverse, List.length_map, Nat.add_comm]
  rfl

/-- A letter counts one to 26, and it is the letter that counts so many, up to its case. -/
theorem letterValue_bounds {c : Char} (h : isAsciiLetter c = true) :
    1 ≤ letterValue c ∧ letterValue c ≤ 26 ∧ Char.ofNat (64 + letterValue c) = c.toUpper := by
  have hall : ∀ c : Char, c.toNat < 128 → isAsciiLetter c = true →
      1 ≤ letterValue c ∧ letterValue c ≤ 26 ∧ Char.ofNat (64 + letterValue c) = c.toUpper := by
    decide +kernel
  exact hall c (toNat_lt_of_isAsciiLetter h) h

/-- Letters that are there count at least one. -/
theorem lettersNumber_pos {letters : List Char} (hne : letters ≠ [])
    (h : ∀ c ∈ letters, isAsciiLetter c = true) : 0 < lettersNumber letters := by
  obtain ⟨front, c, rfl⟩ := (List.eq_nil_or_concat' letters).resolve_left hne
  have hc := letterValue_bounds (h c (List.mem_append_right _ (List.mem_singleton_self c)))
  rw [lettersNumber_concat]
  omega

/-! ## Reading -/

/-- Letters that are read behind others are refused when all of them count too many. -/
theorem readLetters_eq (all : List Char) {letters : List Char}
    (h : ∀ c ∈ letters, isAsciiLetter c = true) {n : Nat} (hn : n < indexLimit) :
    readLetters all n letters =
      if 26 ^ letters.length * n + lettersNumber letters < indexLimit then
        .ok (26 ^ letters.length * n + lettersNumber letters)
      else .error (.address (.columnTooLarge (String.ofList all))) := by
  induction letters generalizing n with
  | nil => simp [readLetters, lettersNumber_nil, hn]
  | cons c letters ih =>
    obtain ⟨hc, hletters⟩ := List.forall_mem_cons.1 h
    have htotal : 26 ^ (c :: letters).length * n + lettersNumber (c :: letters) =
        26 ^ letters.length * (26 * n + letterValue c) + lettersNumber letters := by
      rw [lettersNumber_cons, List.length_cons]
      ring
    rw [readLetters, if_pos hc, htotal]
    dsimp only
    split
    next hnext => exact ih hletters hnext
    next hnext =>
      -- The letters that have been read are too many, and those behind them count no less.
      have hle : 26 * n + letterValue c ≤
          26 ^ letters.length * (26 * n + letterValue c) :=
        Nat.le_mul_of_pos_left _ (Nat.pow_pos (by decide))
      rw [if_neg (by omega)]

/-- Letters name the column that is one less than what they count, if that is below the limit. -/
theorem columnOfLetters_eq {letters : List Char} (hne : letters ≠ [])
    (h : ∀ c ∈ letters, isAsciiLetter c = true) :
    columnOfLetters letters =
      if lettersNumber letters < indexLimit then .ok (lettersNumber letters - 1)
      else .error (.address (.columnTooLarge (String.ofList letters))) := by
  have hread := readLetters_eq letters h (n := 0) (by decide)
  simp only [Nat.mul_zero, Nat.zero_add] at hread
  unfold columnOfLetters
  split
  next => exact absurd rfl hne
  next =>
    rw [hread]
    split <;> rfl

/-! ## Writing -/

theorem lettersOf_succ (n : Nat) :
    lettersOf (n + 1) = lettersOf (n / 26) ++ [Char.ofNat (65 + n % 26)] := by
  rw [lettersOf, if_neg (Nat.succ_ne_zero n), Nat.add_sub_cancel]

theorem lettersOf_succ_ne_nil (n : Nat) : lettersOf (n + 1) ≠ [] := by
  simp [lettersOf_succ]

/-- The letters of the alphabet. -/
theorem toNat_letter : ∀ k < 26, (Char.ofNat (65 + k)).toNat = 65 + k := by decide

/-- The letters of the alphabet count from one. -/
theorem letterValue_letter : ∀ k < 26, letterValue (Char.ofNat (65 + k)) = k + 1 := by decide

theorem mem_lettersOf {n : Nat} {c : Char} (h : c ∈ lettersOf n) : 65 ≤ c.toNat ∧ c.toNat ≤ 90 := by
  induction n using Nat.strongRecOn with
  | ind n ih =>
    cases n with
    | zero => simp [lettersOf] at h
    | succ n =>
      rw [lettersOf_succ, List.mem_append, List.mem_singleton] at h
      rcases h with h | rfl
      · exact ih (n / 26) (by omega) h
      · have hk := Nat.mod_lt n (by omega : 26 > 0)
        rw [toNat_letter _ hk]
        omega

theorem isAsciiLetter_of_mem_lettersOf {n : Nat} {c : Char} (h : c ∈ lettersOf n) :
    isAsciiLetter c = true := by
  have hc := mem_lettersOf h
  simp [isAsciiLetter, hc]

/-- The letters of a number count it. -/
theorem lettersNumber_lettersOf (n : Nat) : lettersNumber (lettersOf n) = n := by
  induction n using Nat.strongRecOn with
  | ind n ih =>
    cases n with
    | zero =>
      rw [lettersOf, if_pos rfl]
      rfl
    | succ n =>
      rw [lettersOf_succ, lettersNumber_concat, ih (n / 26) (by omega),
        letterValue_letter _ (Nat.mod_lt n (by decide))]
      omega

/-- The letters of a column are read back. -/
theorem columnOfLetters_lettersOf {column : Nat} (h : column + 1 < indexLimit) :
    columnOfLetters (lettersOf (column + 1)) = .ok column := by
  rw [columnOfLetters_eq (lettersOf_succ_ne_nil column) fun _ => isAsciiLetter_of_mem_lettersOf,
    lettersNumber_lettersOf, if_pos h]
  rfl

/-- What letters count is written with the same letters, all of them capital. -/
theorem lettersOf_lettersNumber {letters : List Char}
    (h : ∀ c ∈ letters, isAsciiLetter c = true) :
    lettersOf (lettersNumber letters) = letters.map Char.toUpper := by
  induction letters using List.reverseRecOn with
  | nil =>
    rw [lettersNumber_nil, lettersOf, if_pos rfl]
    rfl
  | append_singleton letters c ih =>
    rw [List.forall_mem_append, List.forall_mem_singleton] at h
    obtain ⟨hpos, hle, hupper⟩ := letterValue_bounds h.2
    obtain ⟨k, hk⟩ := Nat.exists_eq_succ_of_ne_zero (Nat.ne_of_gt hpos)
    have hquotient : (26 * lettersNumber letters + k) / 26 = lettersNumber letters := by omega
    have hremainder : (26 * lettersNumber letters + k) % 26 = k := by omega
    rw [lettersNumber_concat, hk, Nat.add_succ, lettersOf_succ, hquotient, hremainder, ih h.1,
      List.map_append, List.map_singleton, ← hupper, hk, Nat.succ_eq_add_one, Nat.add_comm k 1,
      ← Nat.add_assoc]

/-! ## The order of the columns -/

section

variable {α : Type} {r : α → α → Prop} {s t : List α} {a b : α}

/-- Of two lists that are equally long, the last entries decide if all others are the same. -/
theorem lex_concat (h : s.length = t.length) :
    List.Lex r (s ++ [a]) (t ++ [b]) ↔ List.Lex r s t ∨ s = t ∧ r a b := by
  induction s generalizing t with
  | nil =>
    obtain rfl := List.length_eq_zero_iff.1 h.symm
    simp [List.lex_singleton_iff]
  | cons x s ih =>
    cases t with
    | nil => cases h
    | cons y t =>
      simp only [List.cons_append, List.cons_lex_cons_iff, ih (Nat.succ.inj h), List.cons.injEq]
      tauto

/-- Lists with one more entry each are ordered by the entries before, and by the last ones if those
are the same. -/
theorem shortlex_concat :
    List.Shortlex r (s ++ [a]) (t ++ [b]) ↔ List.Shortlex r s t ∨ s = t ∧ r a b := by
  simp only [List.shortlex_def, List.length_append, List.length_singleton]
  constructor
  · rintro (hlt | ⟨hlength, h⟩)
    · exact .inl (.inl (Nat.lt_of_add_lt_add_right hlt))
    · have hlength := Nat.add_right_cancel hlength
      exact ((lex_concat hlength).1 h).imp_left fun h => .inr ⟨hlength, h⟩
  · rintro ((hlt | ⟨hlength, h⟩) | ⟨rfl, h⟩)
    · exact .inl (Nat.add_lt_add_right hlt 1)
    · exact .inr ⟨congrArg (· + 1) hlength, (lex_concat hlength).2 (.inl h)⟩
    · exact .inr ⟨rfl, (lex_concat rfl).2 (.inr ⟨rfl, h⟩)⟩

end

theorem letter_lt_letter : ∀ i < 26, ∀ j < 26,
    (Char.ofNat (65 + i) < Char.ofNat (65 + j) ↔ i < j) := by decide +kernel

/-- Numbers are ordered as their letters are. -/
theorem lt_iff_shortlex_lettersOf (n m : Nat) :
    n < m ↔ List.Shortlex (· < ·) (lettersOf n) (lettersOf m) := by
  induction n using Nat.strongRecOn generalizing m with
  | ind n ih =>
    cases m with
    | zero =>
      rw [lettersOf.eq_def 0, if_pos rfl]
      simp
    | succ m =>
      cases n with
      | zero =>
        rw [lettersOf.eq_def 0, if_pos rfl]
        simp [List.shortlex_def, List.length_pos_iff.2 (lettersOf_succ_ne_nil m)]
      | succ n =>
        have hletters : lettersOf (n / 26) = lettersOf (m / 26) ↔ n / 26 = m / 26 :=
          ⟨fun h => by rw [← lettersNumber_lettersOf (n / 26), h, lettersNumber_lettersOf],
            congrArg lettersOf⟩
        rw [lettersOf_succ, lettersOf_succ, shortlex_concat, ← ih (n / 26) (by omega), hletters,
          letter_lt_letter _ (Nat.mod_lt n (by decide)) _ (Nat.mod_lt m (by decide))]
        omega

/-- Column letters name the columns one to one and in order.  Every column whose number, counted
from one, is below the limit is read back from its letters.  All letters that count less than the
limit are those of a column, up to their case, and others are refused.  One column comes before
another if its letters are fewer, or as many and before those of the other in the alphabet. -/
theorem columnLetters_order_iso :
    (∀ column, column + 1 < indexLimit →
        columnOfLetters (columnLetters column).toList = .ok column) ∧
      (∀ letters : String, letters ≠ "" → (∀ c ∈ letters.toList, isAsciiLetter c = true) →
        (lettersNumber letters.toList < indexLimit → ∃ column,
          columnOfLetters letters.toList = .ok column ∧
            column + 1 = lettersNumber letters.toList ∧ columnLetters column = letters.toUpper) ∧
        (indexLimit ≤ lettersNumber letters.toList →
          columnOfLetters letters.toList = .error (.address (.columnTooLarge letters)))) ∧
      ∀ column column', column < column' ↔
        (columnLetters column).length < (columnLetters column').length ∨
          (columnLetters column).length = (columnLetters column').length ∧
            columnLetters column < columnLetters column' := by
  refine ⟨fun column h => ?_, fun letters hne h => ⟨fun hlt => ?_, fun hle => ?_⟩,
    fun column column' => ?_⟩
  · rw [columnLetters, String.toList_ofList, columnOfLetters_lettersOf h]
  · have hne : letters.toList ≠ [] := by simpa using hne
    have hnumber : lettersNumber letters.toList - 1 + 1 = lettersNumber letters.toList :=
      Nat.sub_add_cancel (lettersNumber_pos hne h)
    refine ⟨lettersNumber letters.toList - 1, ?_, hnumber, ?_⟩
    · rw [columnOfLetters_eq hne h, if_pos hlt]
    · rw [columnLetters, hnumber, lettersOf_lettersNumber h, ← String.toList_map,
        String.ofList_toList]
      rfl
  · rw [columnOfLetters_eq (by simpa using hne) h, if_neg (Nat.not_lt.2 hle),
      String.ofList_toList]
  · rw [← Nat.add_lt_add_iff_right (k := 1), lt_iff_shortlex_lettersOf, List.shortlex_def,
      String.lt_iff_toList_lt]
    simp only [columnLetters, String.length_ofList, String.toList_ofList]
    rfl

/-- The letters of the last column that can be named, the first ones that name none, and a carry. -/
theorem columnLetters_order_iso_at_limit :
    let last := "gkgwbylwrxtlpo"
    let next := "gkgwbylwrxtlpp"
    (18446744073709551614 + 1 < indexLimit ∧
        columnOfLetters (columnLetters 18446744073709551614).toList = .ok 18446744073709551614) ∧
      (last ≠ "" ∧ (∀ c ∈ last.toList, isAsciiLetter c = true) ∧
        lettersNumber last.toList < indexLimit ∧
        ∃ column, columnOfLetters last.toList = .ok column ∧ columnLetters column = last.toUpper) ∧
      (next ≠ "" ∧ (∀ c ∈ next.toList, isAsciiLetter c = true) ∧
        indexLimit ≤ lettersNumber next.toList ∧
        columnOfLetters next.toList = .error (.address (.columnTooLarge next))) ∧
      (701 < 702 ∧ columnLetters 701 = "ZZ" ∧ columnLetters 702 = "AAA" ∧
        (columnLetters 701).length < (columnLetters 702).length) := by
  intro last next
  obtain ⟨hread, hletters, horder⟩ := columnLetters_order_iso
  have hlast : ∀ c ∈ last.toList, isAsciiLetter c = true :=
    List.all_eq_true.1 (by decide +kernel)
  have hnext : ∀ c ∈ next.toList, isAsciiLetter c = true :=
    List.all_eq_true.1 (by decide +kernel)
  have hlt : lettersNumber last.toList < indexLimit := by decide +kernel
  have hle : indexLimit ≤ lettersNumber next.toList := by decide +kernel
  obtain ⟨column, hcolumn, -, hupper⟩ := (hletters last (by decide) hlast).1 hlt
  refine ⟨⟨by decide, hread _ (by decide)⟩, ⟨by decide, hlast, hlt, column, hcolumn, hupper⟩,
    ⟨by decide, hnext, hle, (hletters next (by decide) hnext).2 hle⟩,
    by decide, by decide +kernel, by decide +kernel, ?_⟩
  -- Both texts are not equally long, so the shorter one belongs to the column before.
  refine ((horder 701 702).1 (by decide)).resolve_right fun h => ?_
  exact absurd h.1 (by decide +kernel)

end Spreadsheet.Grid
