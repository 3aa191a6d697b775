import Spreadsheet.Proofs.Formula.Spans

/-!
# Texts and their tokens

A text is tokenized by dropping the white space in front of it and taking a
token, over and over, until only white space is left (`Tokenizes`).  Scanning
gives the tokens of a text if it has any (`scan_eq_iff`).  It goes a bounded
number of steps, which is enough because no token is taken from nothing
(`length_takeToken`).
-/

namespace Spreadsheet.Formula

open Spreadsheet.Text (isBlank)

/-- A text is cut into tokens. -/
inductive Tokenizes : List Char → List Token → Prop where
  /-- Nothing but white space is left. -/
  | done {cs} : cs.dropWhile isBlank = [] → Tokenizes cs []
  /-- A token is taken behind white space. -/
  | token {cs t rest ts} :
    takeToken (cs.dropWhile isBlank) = .ok (t, rest) → Tokenizes rest ts → Tokenizes cs (t :: ts)

/-! ## What is left -/

theorem length_dropWhile_le (f : Char → Bool) (cs : List Char) :
    (cs.dropWhile f).length ≤ cs.length :=
  (List.dropWhile_suffix f).length_le

/-- Every token takes at least one character. -/
theorem length_takeToken {cs rest : List Char} {t : Token} (h : takeToken cs = .ok (t, rest)) :
    rest.length < cs.length := by
  obtain ⟨span, hspan, rfl⟩ := exists_span h
  have hlength := List.length_pos_of_ne_nil hspan.ne_nil
  rw [List.length_append]
  omega

/-! ## Scanning -/

theorem scanFrom_eq_iff {n : Nat} {cs : List Char} {ts : List Token} (hn : cs.length ≤ n) :
    scanFrom n cs = (ts, none) ↔ Tokenizes cs ts := by
  induction n generalizing cs ts with
  | zero =>
    obtain rfl := List.length_eq_zero_iff.1 (Nat.le_zero.1 hn)
    constructor
    · rintro ⟨⟩
      exact .done rfl
    · intro h
      cases h with
      | done => rfl
      | token htoken => cases htoken
  | succ n ih =>
    have hleft := length_dropWhile_le isBlank cs
    unfold scanFrom
    split
    next hblank =>
      constructor
      · rintro ⟨⟩
        exact .done hblank
      · intro h
        cases h with
        | done => rfl
        | token htoken =>
          rw [hblank] at htoken
          cases htoken
    next c left hcs =>
      rw [hcs] at hleft
      split
      next fault htoken =>
        constructor
        · nofun
        · intro h
          cases h with
          | done hblank => cases hcs.symm.trans hblank
          | token htoken' =>
            rw [hcs, htoken] at htoken'
            cases htoken'
      next t rest htoken =>
        have hrest := length_takeToken htoken
        have hscan {ts : List Token} : scanFrom n rest = (ts, none) ↔ Tokenizes rest ts :=
          ih (by omega)
        constructor
        · intro h
          rw [← hcs] at htoken
          generalize scanFrom n rest = scanned at h hscan
          obtain ⟨ts', fault⟩ := scanned
          cases h
          exact .token htoken (hscan.1 rfl)
        · intro h
          cases h with
          | done hblank => cases hcs.symm.trans hblank
          | token htoken' htokens =>
            rw [hcs, htoken] at htoken'
            cases htoken'
            rw [hscan.2 htokens]

/-- Scanning a text to its end gives its tokens. -/
theorem scan_eq_iff {s : String} {ts : List Token} :
    scan s = (ts, none) ↔ Tokenizes s.toList ts :=
  scanFrom_eq_iff (Nat.le_refl _)

/-- A text has no other tokens. -/
theorem Tokenizes.unique {cs : List Char} {ts ts' : List Token} (h : Tokenizes cs ts)
    (h' : Tokenizes cs ts') : ts = ts' := by
  have hscan := (scanFrom_eq_iff (Nat.le_refl _)).2 h
  rw [(scanFrom_eq_iff (Nat.le_refl _)).2 h'] at hscan
  exact (Prod.mk.inj hscan).1.symm

end Spreadsheet.Formula
