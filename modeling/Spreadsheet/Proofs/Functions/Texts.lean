import Spreadsheet.Functions.Characters
import Spreadsheet.Proofs.Decimal.Order
import Spreadsheet.Proofs.Evaluation.Answers
import Spreadsheet.Proofs.Text.Parts

/-!
# Functions on texts

What the functions give for the parts of a text, for its length and for the
occurrences of another one, once their arguments are known.  A position that is
given as a number stands for a whole number, as far as 64 bits reach
(`toUnsigned64`).
-/

namespace Spreadsheet.Functions

open Spreadsheet.Decimal (toUnsigned64 whole?)
open Spreadsheet.Evaluation
open Spreadsheet.Evaluation.Program
open Spreadsheet.Formula (Error)
open Spreadsheet.Text (OccursAt occursAt_iff_take)

variable {q : Answers} {a b c d : Argument} {s t : String} {x y : Float}

/-! ## Arguments -/

/-- A program that gives a value is an argument for the text of the value. -/
theorem text_under_of_value {p : Program Value} {v : Value} (hp : p.under q = .ok v)
    (hv : ∀ r, v ≠ .reference r) : (Argument.computed p).text.under q = .ok v.asText := by
  cases v with
  | reference r => exact (hv r rfl).elim
  | _ =>
    simp only [Argument.text, Argument.value, Argument.operand, bind_eq, under_bind, hp]
    rfl

theorem text_under_of_error {p : Program Value} {e : Error} (hp : p.under q = .error e) :
    (Argument.computed p).text.under q = .error e := by
  simp only [Argument.text, Argument.value, Argument.operand, bind_eq, under_bind, hp]
  rfl

/-- A number that a function is given is not NaN. -/
theorem isNaN_of_number_under (h : a.number.under q = .ok x) : x.isNaN = false := by
  rw [Argument.number, bind_eq, under_bind] at h
  generalize a.value.under q = v at h
  cases v with
  | ok v =>
    rw [ok_bind, under_ofExcept] at h
    exact Value.isNaN_of_expectNumber h
  | error e => cases h

/-! ## Parts and lengths -/

theorem len_under (ha : a.text.under q = .ok s) :
    (len [a]).under q = .ok (.number (Float.ofNat s.toList.length)) := by
  have hfirst : textAt [a] 0 = a.text := rfl
  simp only [len, bind_eq, hfirst, under_bind_of_ok ha, pure_eq, under_done]

theorem exact_under (ha : a.text.under q = .ok s) (hb : b.text.under q = .ok t) :
    (exact [a, b]).under q = .ok (.boolean (s == t)) := by
  have hfirst : textAt [a, b] 0 = a.text := rfl
  have hsecond : textAt [a, b] 1 = b.text := rfl
  simp only [exact, bind_eq, hfirst, hsecond, under_bind_of_ok ha, under_bind_of_ok hb, pure_eq,
    under_done]

theorem exact_under_of_error {e : Error} (ha : a.text.under q = .error e) :
    (exact [a, b]).under q = .error e := by
  have hfirst : textAt [a, b] 0 = a.text := rfl
  simp only [exact, bind_eq, hfirst, under_bind_of_error ha]

/-- A part is cut out where its position and its length are let pass. -/
theorem mid_under (ha : a.text.under q = .ok s) (hb : b.number.under q = .ok x)
    (hc : c.number.under q = .ok y) :
    (mid [a, b, c]).under q = (do
      let start ← positionOf "MID" x
      let n ← countOf "MID" y
      return textResult ((s.toList.drop start).take n)) := by
  have hfirst : textAt [a, b, c] 0 = a.text := rfl
  have hsecond : numberAt [a, b, c] 1 = b.number := rfl
  have hthird : numberAt [a, b, c] 2 = c.number := rfl
  simp only [mid, bind_eq, hfirst, hsecond, hthird, under_bind_of_ok ha, under_bind_of_ok hb,
    under_bind, under_ofExcept, hc, ok_bind, pure_eq, under_done]
  rfl

/-- The result of comparing a part of a text with another text.  Its position and its length have to
be let pass. -/
def partCompared (s : String) (x y : Float) (t : String) : Except Error Value := do
  let start ← positionOf "MID" x
  let n ← countOf "MID" y
  return .boolean (String.ofList ((s.toList.drop start).take n) == t)

theorem exact_mid_under (ha : a.text.under q = .ok s) (hb : b.number.under q = .ok x)
    (hc : c.number.under q = .ok y) (hd : d.text.under q = .ok t) :
    (exact [.computed (mid [a, b, c]), d]).under q = partCompared s x y t := by
  unfold partCompared
  have hpart := mid_under ha hb hc
  cases hstart : positionOf "MID" x with
  | error err =>
    rw [hstart] at hpart
    exact exact_under_of_error (text_under_of_error hpart)
  | ok start =>
    cases hn : countOf "MID" y with
    | error err =>
      rw [hstart, hn] at hpart
      exact exact_under_of_error (text_under_of_error hpart)
    | ok n =>
      rw [hstart, hn] at hpart
      exact exact_under (text_under_of_value hpart nofun) hd

/-- A part that compares equal is let pass in its position and its length, and is the other text. -/
theorem partCompared_eq_true_iff : partCompared s x y t = .ok (.boolean true) ↔
    ∃ start n, positionOf "MID" x = .ok start ∧ countOf "MID" y = .ok n ∧
      (s.toList.drop start).take n = t.toList := by
  unfold partCompared
  constructor
  · intro h
    obtain ⟨start, hstart, h⟩ := bind_eq_ok.1 h
    obtain ⟨n, hn, h⟩ := bind_eq_ok.1 h
    have hsame : (String.ofList ((s.toList.drop start).take n) == t) = true :=
      Value.boolean.inj (Except.ok.inj h)
    rw [beq_iff_eq, ← String.toList_inj, String.toList_ofList] at hsame
    exact ⟨start, n, hstart, hn, hsame⟩
  · rintro ⟨start, n, hstart, hn, h⟩
    rw [hstart, hn, ok_bind, ok_bind, h, String.ofList_toList, beq_self_eq_true]
    rfl

/-- A part of the length of another text is that text just where it occurs.  A text that is too long
for its length to be exact does not occur, and no part is as long. -/
theorem partCompared_iff {p : Nat} (hx : x.isNaN = false) (hwhole : whole? x = some ↑p)
    (ht : t.toList ≠ []) (hsize : s.toList.length ≤ 2 ^ 53) :
    partCompared s x (Float.ofNat t.toList.length) t = .ok (.boolean true) ↔
      OccursAt t.toList s.toList p := by
  have hpositive := List.length_pos_iff.2 ht
  have hk : toUnsigned64 x = min p 18446744073709551615 := Decimal.toUnsigned64_of_whole? hwhole
  rw [partCompared_eq_true_iff]
  obtain rfl | hp := Nat.eq_zero_or_pos p
  · have hlow : x < 1.0 := by
      by_contra hlow
      have := Decimal.one_le_toUnsigned64 hx hlow
      omega
    have hrefused : positionOf "MID" x = .error (.argument (.badPosition "MID")) := if_pos hlow
    refine iff_of_false ?_ fun h => absurd h.1 (by decide)
    rintro ⟨start, n, hstart, -⟩
    cases hrefused.symm.trans hstart
  have hlow : ¬ x < 1.0 := Decimal.not_lt_one (by omega)
  have hposition : positionOf "MID" x = .ok (toUnsigned64 x - 1) := if_neg hlow
  have hdrop : s.toList.drop (toUnsigned64 x - 1) = s.toList.drop (p - 1) := by
    obtain hle | hgt := le_or_gt p 18446744073709551615
    · rw [hk, Nat.min_eq_left hle]
    · rw [List.drop_of_length_le (by omega), List.drop_of_length_le (by omega)]
  constructor
  · rintro ⟨start, n, hstart, -, hpart⟩
    obtain rfl := Except.ok.inj (hposition.symm.trans hstart)
    rw [hdrop] at hpart
    exact ⟨hp, hpart ▸ List.take_prefix _ _⟩
  · intro h
    have hshort : t.toList.length ≤ 2 ^ 53 := by
      have hle := h.2.length_le
      rw [List.length_drop] at hle
      omega
    have hlength := Decimal.toUnsigned64_ofNat hshort
    have hcount : countOf "MID" (Float.ofNat t.toList.length) = .ok t.toList.length := by
      rw [countOf, if_neg (Decimal.not_lt_zero (by omega)), hlength]
    rw [occursAt_iff_take hp, ← hdrop] at h
    exact ⟨_, _, hposition, hcount, h⟩

/-! ## Positions -/

/-- The result of a search from a position on, counted from zero. -/
def foundAt (needle : String) (start : Nat) : Option Nat → Except Error Value
  | some i => .ok (.number (Float.ofNat (start + i + 1)))
  | none => .error (.notFound needle)

/-- A search that stays within the rest of a text gives what it finds there. -/
theorem foundFrom_under {needle : String} {cs : List Char} {start : Nat}
    {search : List Char → Option Nat} (hstart : start ≤ cs.length)
    (hsearch : ∀ i, search (cs.drop start) = some i → i ≤ (cs.drop start).length) :
    (foundFrom needle cs start search).under q = foundAt needle start (search (cs.drop start)) := by
  have hfrom : entriesFrom cs start = .done (cs.drop start) := if_pos hstart
  simp only [foundFrom, Nat.min_eq_left hstart, hfrom, bind_eq, done_bind]
  cases hfound : search (cs.drop start) with
  | none => rfl
  | some i =>
    have hend : start + i ≤ cs.length := by
      have hi := hsearch i hfound
      rw [List.length_drop] at hi
      omega
    have hbefore : entriesBefore cs (start + i) = .done (cs.take (start + i)) := if_pos hend
    simp only [hbefore, done_bind, List.length_take, Nat.min_eq_left hend]
    rfl

/-- A text that is not empty is looked for in the rest of a text, wherever that begins. -/
theorem find_under {rest : List Argument} (ha : a.text.under q = .ok s)
    (hb : b.text.under q = .ok t) (hx : (optionalNumber (a :: b :: rest) 2 1.0).under q = .ok x)
    (hlow : ¬ x < 1.0) (hs : s.toList ≠ []) :
    (find (a :: b :: rest)).under q = foundAt s (toUnsigned64 x - 1)
      (Text.position? s.toList (t.toList.drop (toUnsigned64 x - 1))) := by
  have hfirst : textAt (a :: b :: rest) 0 = a.text := rfl
  have hsecond : textAt (a :: b :: rest) 1 = b.text := rfl
  have hposition : positionOf "FIND" x = .ok (toUnsigned64 x - 1) := if_neg hlow
  simp only [find, bind_eq, hfirst, hsecond, under_bind_of_ok ha, under_bind_of_ok hb,
    under_bind_of_ok hx, hposition, under_bind, under_ofExcept, ok_bind]
  generalize toUnsigned64 x - 1 = start
  obtain hle | hgt := le_or_gt start t.toList.length
  · refine foundFrom_under hle fun i hi => ?_
    have hend := Text.add_length_le_of_position? hi
    omega
  · -- Behind the end there is nothing left to look at.
    have hnone : Text.position? s.toList [] = none := by
      rw [Text.position?_nil, if_neg (by rwa [List.isEmpty_iff])]
    have hfrom : entriesFrom t.toList t.toList.length = .done [] := by
      rw [entriesFrom, if_pos le_rfl, List.drop_length]
    simp only [foundFrom, Nat.min_eq_right hgt.le, hfrom, bind_eq, done_bind,
      List.drop_of_length_le hgt.le, hnone]
    rfl

/-- What is found from a position on is the least one at which the text occurs.  Positions up to
`2 ^ 53` are told apart by their numbers. -/
theorem foundAt_position?_iff {needle : String} {cs : List Char} {k : Nat} (hlow : 1 ≤ k)
    (hne : needle.toList ≠ []) (hsize : cs.length ≤ 2 ^ 53) :
    let result := foundAt needle (k - 1) (Text.position? needle.toList (cs.drop (k - 1)))
    (∀ p ≤ 2 ^ 53, result = .ok (.number (Float.ofNat p)) ↔
        IsLeast {p | k ≤ p ∧ OccursAt needle.toList cs p} p) ∧
      (result = .error (.notFound needle) ↔ ∀ p, k ≤ p → ¬ OccursAt needle.toList cs p) := by
  intro result
  cases hfound : Text.position? needle.toList (cs.drop (k - 1)) with
  | none =>
    have hresult : result = .error (.notFound needle) :=
      congrArg (foundAt needle (k - 1)) hfound
    have hnot (p : Nat) (hp : k ≤ p) := Text.not_occursAt_of_position? hlow hfound hp
    rw [hresult]
    exact ⟨fun p _ => iff_of_false nofun fun h => hnot p h.1.1 h.1.2, iff_of_true rfl hnot⟩
  | some i =>
    have hresult : result = .ok (.number (Float.ofNat (k + i))) := by
      refine (congrArg (foundAt needle (k - 1)) hfound).trans ?_
      rw [foundAt, show k - 1 + i + 1 = k + i by omega]
    have hleast := Text.isLeast_of_position? hlow hfound
    have hend := Text.add_length_le_of_occursAt hne hleast.1.2
    have hpositive := List.length_pos_iff.2 hne
    rw [hresult]
    refine ⟨fun p hp => ⟨fun h => ?_, fun h => by rw [h.unique hleast]⟩,
      iff_of_false nofun fun h => h _ hleast.1.1 hleast.1.2⟩
    rw [Except.ok.injEq, Value.number.injEq] at h
    rwa [← Decimal.ofNat_inj (by omega) hp h]

/-! ## Replacing occurrences -/

theorem substituteNth_under (old new : List Char) (n : Nat) (s : String) :
    (substituteNth old new n s).under q = .ok (textResult (Text.replaceNth old new n s.toList)) := by
  unfold substituteNth Text.replaceNth
  cases hfound : Text.nthPosition? old 0 n s.toList with
  | none => rw [pure_eq, under_done, textResult, String.ofList_toList]
  | some i =>
    have hend := Text.add_length_le_of_nthPosition? hfound
    have hbefore : entriesBefore s.toList i = .done (s.toList.take i) := if_pos (by omega)
    have hbehind : entriesFrom s.toList (i + old.length) =
        .done (s.toList.drop (i + old.length)) := if_pos hend
    simp only [hbefore, hbehind, bind_eq, done_bind, pure_eq, under_done]

section

variable {old new : String} (ha : a.text.under q = .ok s) (hb : b.text.under q = .ok old)
  (hc : c.text.under q = .ok new) (hold : old.toList ≠ [])
include ha hb hc hold

/-- Without a number every occurrence is replaced. -/
theorem substitute_all_under : (substitute [a, b, c]).under q =
    .ok (textResult (Text.replaceAll old.toList new.toList 0 s.toList)) := by
  have hfirst : textAt [a, b, c] 0 = a.text := rfl
  have hsecond : textAt [a, b, c] 1 = b.text := rfl
  have hthird : textAt [a, b, c] 2 = c.text := rfl
  simp only [substitute, bind_eq, hfirst, hsecond, hthird, under_bind_of_ok ha,
    under_bind_of_ok hb, under_bind_of_ok hc, if_neg (mt List.isEmpty_iff.1 hold)]
  rfl

/-- With a number one occurrence is replaced. -/
theorem substitute_nth_under (hd : d.number.under q = .ok x) (hlow : ¬ x < 1.0) :
    (substitute [a, b, c, d]).under q = .ok (textResult
      (Text.replaceNth old.toList new.toList (toUnsigned64 x - 1) s.toList)) := by
  have hfirst : textAt [a, b, c, d] 0 = a.text := rfl
  have hsecond : textAt [a, b, c, d] 1 = b.text := rfl
  have hthird : textAt [a, b, c, d] 2 = c.text := rfl
  have hfourth : [a, b, c, d][3]? = some d := rfl
  have hposition : positionOf "SUBSTITUTE" x = .ok (toUnsigned64 x - 1) := if_neg hlow
  simp only [substitute, bind_eq, hfirst, hsecond, hthird, hfourth, under_bind_of_ok ha,
    under_bind_of_ok hb, under_bind_of_ok hc, under_bind_of_ok hd, under_bind, under_ofExcept,
    hposition, ok_bind, if_neg (mt List.isEmpty_iff.1 hold)]
  exact substituteNth_under _ _ _ _

end

end Spreadsheet.Functions
