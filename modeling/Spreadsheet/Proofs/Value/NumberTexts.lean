import Spreadsheet.Proofs.Decimal.FixedText
import Spreadsheet.Proofs.Value.Defined
import Spreadsheet.Value.Display

/-!
# Numbers in their formats

A format of numbers is a letter with a number of places (`IsFormat`), and it
writes a minus sign or none and then a magnitude (`toList_display`).  The digits
before the point are cut from the right into groups of three (`exists_groups`),
and the commas between them are all that this adds (`filter_groupThousands`).
-/

namespace Spreadsheet.Value

open Spreadsheet.Decimal (shape fixed pointed head?_pointed IsFixed exists_fixed fixed_of_infinite
  shape_cases digitsOf)
open Spreadsheet.Grid (digitsOf_ne_nil isDigit_of_mem_digitsOf number_digitsOf)
open Spreadsheet.Text (isDigit asciiLower takeWhile_append_of_stop dropWhile_append_of_stop)

variable {x : Float} {kind : Char} {places : Nat} {format : String} {cs : List Char}

/-! ## Formats -/

/-- The greatest number of places that a format names. -/
def mostPlaces : Nat := 65535

/-- The letter of a format in lower case and the number of places that it names. -/
def letterAndPlaces? (format : String) : Option (Char × Nat) :=
  match format.toList with
  | [] => none
  | letter :: digits => (readPlaces? digits).map (asciiLower letter, ·)

/-- A format of numbers: one of four letters, and a number of places. -/
def IsFormat (kind : Char) (places : Nat) (format : String) : Prop :=
  letterAndPlaces? format = some (kind, places) ∧ kind ∈ ['n', 'f', 'c', 'p'] ∧ places ≤ mostPlaces

instance : Decidable (IsFormat kind places format) := inferInstanceAs (Decidable (_ ∧ _ ∧ _))

/-- Every number of places has a format. -/
theorem isFormat_digitsOf (hkind : kind ∈ ['n', 'f', 'c', 'p']) (hplaces : places ≤ mostPlaces) :
    IsFormat kind places (String.ofList (kind :: digitsOf places)) := by
  have hdigits : (digitsOf places).all isDigit = true :=
    List.all_eq_true.2 fun c => isDigit_of_mem_digitsOf
  have hlt : Decimal.number 0 (digitsOf places) < placesLimit := by
    rw [number_digitsOf]
    exact hplaces.trans_lt (by decide)
  have hplus : (digitsOf places).head? ≠ some '+' := by
    intro hhead
    have hdigit := isDigit_of_mem_digitsOf (List.mem_of_head? hhead)
    revert hdigit
    decide
  have hread : readPlaces? (digitsOf places) = some places := by
    unfold readPlaces?
    dsimp only
    rw [if_neg hplus, hdigits, List.isEmpty_eq_false_iff.2 (digitsOf_ne_nil places),
      Decimal.numberBelow_eq_number hlt, if_neg Bool.false_ne_true, Bool.not_true, Bool.or_self,
      if_neg Bool.false_ne_true, if_pos hlt, number_digitsOf]
  have hlower : asciiLower kind = kind := by
    simp only [List.mem_cons, List.not_mem_nil, or_false] at hkind
    rcases hkind with rfl | rfl | rfl | rfl <;> rfl
  refine ⟨?_, hkind, hplaces⟩
  rw [letterAndPlaces?, String.toList_ofList]
  dsimp only
  rw [hread, hlower]
  rfl

/-- A number is written in the format that it is given. -/
theorem display_number (hx : x.isNaN = false) (h : IsFormat kind places format) :
    (number x).display format = numberDisplay kind x places := by
  obtain ⟨hformat, hkind, -⟩ := h
  unfold letterAndPlaces? at hformat
  split at hformat
  next => cases hformat
  next letter digits hletter =>
    obtain ⟨_, hplaces, heq⟩ := Option.map_eq_some_iff.1 hformat
    obtain ⟨rfl, rfl⟩ := Prod.mk.inj heq
    have hnumber : (number x).isNumber = true := by simp only [isNumber, raw, hx, Bool.not_false]
    have hletters : asciiLower letter ∉ ['d', 't', 'g'] := by
      intro h
      simp only [List.mem_cons, List.not_mem_nil, or_false] at h hkind
      rcases h with h | h | h <;> rw [h] at hkind <;> revert hkind <;> decide
    simp only [List.mem_cons, List.not_mem_nil, or_false, not_or] at hletters hkind
    have hkinds : (asciiLower letter = 'n' || asciiLower letter = 'f' || asciiLower letter = 'c' ||
        asciiLower letter = 'p') = true := by simpa [or_assoc] using hkind
    simp only [display, raw, hletter, hnumber, hletters, hkinds, hplaces, toNumber, decide_false,
      Bool.or_self, Bool.false_and, Bool.false_eq_true, if_true, if_false]

/-! ## Groups of three -/

/-- One to three digits, and groups of exactly three. -/
structure IsGrouped (first : List Char) (groups : List (List Char)) : Prop where
  /-- The first group is not empty. -/
  pos : 0 < first.length
  /-- The first group is not longer than the others. -/
  le : first.length ≤ 3
  /-- The others have three digits. -/
  length_eq : ∀ group ∈ groups, group.length = 3

/-- Digits are cut into groups, with a comma in front of each but the first. -/
theorem exists_groups (h : cs ≠ []) :
    ∃ first groups, IsGrouped first groups ∧ cs = first ++ groups.flatten ∧
      groupThousands cs = first ++ groups.flatMap (',' :: ·) := by
  induction cs with
  | nil => exact absurd rfl h
  | cons c cs ih =>
    cases cs with
    | nil => exact ⟨[c], [], ⟨by simp, by simp, by simp⟩, rfl, rfl⟩
    | cons d cs =>
      obtain ⟨first, groups, hgroups, hcs, htext⟩ := ih (List.cons_ne_nil d cs)
      have hlength : (d :: cs).length = first.length + 3 * groups.length := by
        rw [hcs, List.length_append, List.length_flatten, List.map_congr_left hgroups.length_eq]
        simp [Nat.mul_comm]
      have hpos := hgroups.pos
      have hle := hgroups.le
      rw [groupThousands, htext]
      by_cases hfull : first.length = 3
      · rw [if_pos (by simp [hlength, hfull])]
        refine ⟨[c], first :: groups, ⟨by simp, by simp, ?_⟩, ?_, ?_⟩
        · exact List.forall_mem_cons.2 ⟨hfull, hgroups.length_eq⟩
        · rw [hcs]
          rfl
        · rfl
      · rw [if_neg (by simp [hlength]; omega)]
        refine ⟨c :: first, groups, ⟨by simp, by simp; omega, hgroups.length_eq⟩, ?_, rfl⟩
        rw [hcs]
        rfl

/-- Nothing but commas is added. -/
theorem filter_groupThousands {p : Char → Bool} (hp : p ',' = false) (cs : List Char) :
    (groupThousands cs).filter p = cs.filter p := by
  induction cs with
  | nil => rfl
  | cons c cs ih =>
    rw [groupThousands]
    split
    · rw [List.filter_cons, List.filter_cons_of_neg (by simp [hp]), ih, List.filter_cons]
    · rw [List.filter_cons, ih, List.filter_cons]

example : groupThousands "1234567".toList = "1,234,567".toList := by decide +kernel

theorem groupThousands_cons (c : Char) (cs : List Char) :
    ∃ rest, groupThousands (c :: cs) = c :: rest := by
  rw [groupThousands]
  split <;> exact ⟨_, rfl⟩

/-! ## Magnitudes -/

theorem magnitudeText_false (x : Float) (places : Nat) :
    magnitudeText x places false = fixed places x :=
  List.takeWhile_append_dropWhile

/-- Apart from commas a magnitude is the text of a fixed number of places. -/
theorem filter_magnitudeText {p : Char → Bool} (hp : p ',' = false) (grouping : Bool) :
    (magnitudeText x places grouping).filter p = (fixed places x).filter p := by
  cases grouping with
  | false => rw [magnitudeText_false]
  | true =>
    unfold magnitudeText
    dsimp only
    rw [if_pos rfl, List.filter_append, filter_groupThousands hp, ← List.filter_append,
      List.takeWhile_append_dropWhile]

/-- What is written of a number without its sign, with or without commas. -/
structure IsMagnitude (x : Float) (places : Nat) (whole rest : List Char) : Prop where
  /-- Something stands before the point. -/
  ne_nil : whole ≠ []
  /-- Neither a comma nor a sign is among the characters. -/
  plain : ∀ c ∈ whole ++ rest, c ≠ ',' ∧ c ≠ '-'
  /-- The commas are put between them. -/
  text_eq : ∀ grouping, magnitudeText x places grouping =
    (if grouping then groupThousands whole else whole) ++ rest

theorem isMagnitude_of_infinite (places : Nat) {negative : Bool}
    (h : shape x = .infinite negative) : IsMagnitude x places ['i', 'n', 'f'] [] where
  ne_nil := List.cons_ne_nil _ _
  plain := by simp
  text_eq grouping := by
    rw [magnitudeText, fixed_of_infinite places h]
    cases grouping <;> decide

theorem isMagnitude_of_fixed {whole fraction : List Char} (h : IsFixed places whole fraction)
    (htext : fixed places x = whole ++ pointed fraction) :
    IsMagnitude x places whole (pointed fraction) where
  ne_nil := h.ne_nil
  plain c hc := by
    constructor <;> rintro rfl <;> rcases h.mem hc with hc | hc <;> revert hc <;> decide
  text_eq grouping := by
    have hwhole : ∀ c ∈ whole, (c ≠ '.' : Bool) = true := fun c hc => by
      simpa using h.whole_ne_point c hc
    have hpoint : ∀ c ∈ (pointed fraction).head?, (c ≠ '.' : Bool) = false := fun c hc => by
      simpa using head?_pointed fraction c hc
    unfold magnitudeText
    dsimp only
    rw [htext, takeWhile_append_of_stop hwhole hpoint, dropWhile_append_of_stop hwhole hpoint]

theorem exists_isMagnitude (hx : x.isNaN = false) (places : Nat) :
    ∃ whole rest, IsMagnitude x places whole rest := by
  obtain ⟨-, negative, h⟩ | ⟨-, b, h⟩ := shape_cases hx
  · exact ⟨_, _, isMagnitude_of_infinite places h⟩
  · obtain ⟨whole, fraction, hfixed, htext⟩ := exists_fixed places h
    exact ⟨_, _, isMagnitude_of_fixed hfixed htext⟩

/-! ## Texts -/

theorem signText_mem (x : Float) (places : Nat) : signText x places ∈ [[], ['-']] := by
  unfold signText
  split <;> simp

/-- A text of dollars: the dollar sign stands behind a minus sign. -/
def withDollar : List Char → List Char
  | '-' :: cs => '-' :: '$' :: cs
  | cs => '$' :: cs

theorem withDollar_append {sign text : List Char} {c : Char} (hsign : sign ∈ [[], ['-']])
    (hc : c ≠ '-') : withDollar (sign ++ c :: text) = sign ++ '$' :: c :: text := by
  simp only [List.mem_cons, List.not_mem_nil, or_false] at hsign
  rcases hsign with rfl | rfl
  · rw [List.nil_append, List.nil_append, withDollar]
    rintro cs ⟨⟩
    exact hc rfl
  · rfl

/-- Without its commas a number is what it is without groups. -/
theorem filter_signed (hx : x.isNaN = false) (places : Nat) :
    (signText x places ++ magnitudeText x places true).filter (· ≠ ',') =
      signText x places ++ magnitudeText x places false := by
  obtain ⟨whole, rest, h⟩ := exists_isMagnitude hx places
  have hsign : (signText x places).filter (· ≠ ',') = signText x places := by
    have hmem := signText_mem x places
    simp only [List.mem_cons, List.not_mem_nil, or_false] at hmem
    rcases hmem with hmem | hmem <;> rw [hmem] <;> decide
  have hfixed : fixed places x = whole ++ rest := by
    rw [← magnitudeText_false, h.text_eq, if_neg Bool.false_ne_true]
  have hplain : (whole ++ rest).filter (· ≠ ',') = whole ++ rest :=
    List.filter_eq_self.2 fun c hc => by simpa using (h.plain c hc).1
  rw [List.filter_append, hsign, filter_magnitudeText (by decide), magnitudeText_false, hfixed,
    hplain]

/-- The dollar sign stands in front of the digits. -/
theorem withDollar_magnitudeText (hx : x.isNaN = false) (places : Nat) :
    withDollar (signText x places ++ magnitudeText x places true) =
      signText x places ++ '$' :: magnitudeText x places true := by
  obtain ⟨whole, rest, h⟩ := exists_isMagnitude hx places
  obtain ⟨c, cs, rfl⟩ := List.exists_cons_of_ne_nil h.ne_nil
  obtain ⟨cs', hgroups⟩ := groupThousands_cons c cs
  rw [h.text_eq, if_pos rfl, hgroups]
  exact withDollar_append (signText_mem x places) (h.plain c (List.mem_cons_self ..)).2

/-- The number that a format shows: a hundred times the number as a percentage. -/
def shown (kind : Char) (x : Float) : Float := if kind = 'p' then x * 100.0 else x

theorem shown_of_ne (h : kind ≠ 'p') (x : Float) : shown kind x = x := if_neg h

/-- What a format writes behind the minus sign or without one. -/
def unsignedText (kind : Char) (x : Float) (places : Nat) : List Char :=
  if kind = 'p' then magnitudeText x places true ++ ['%']
  else if kind = 'c' then '$' :: magnitudeText x places true
  else magnitudeText x places (kind = 'n')

theorem toList_display (hx : x.isNaN = false) (h : IsFormat kind places format) :
    ((number x).display format).toList =
      signText (shown kind x) places ++ unsignedText kind (shown kind x) places := by
  rw [display_number hx h, numberDisplay, String.toList_ofList]
  unfold shown unsignedText
  split
  next => exact List.append_assoc _ _ _
  next => split <;> rfl

/-- The commas in a number are the only difference between its texts with and without them, and they
cut its whole digits into a first group of one to three and then groups of three.  Its text in
dollars has a dollar sign behind the minus sign or in front. -/
theorem display_thousands {n f c : String} (hx : x.isNaN = false) (hn : IsFormat 'n' places n)
    (hf : IsFormat 'f' places f) (hc : IsFormat 'c' places c) :
    ((number x).display n).toList.filter (· ≠ ',') = ((number x).display f).toList ∧
      (x.isFinite = true → ∃ sign first groups fraction, sign ∈ [[], ['-']] ∧
        IsGrouped first groups ∧ IsFixed places (first ++ groups.flatten) fraction ∧
        ((number x).display n).toList =
          sign ++ (first ++ groups.flatMap (',' :: ·)) ++ pointed fraction) ∧
      ((number x).display c).toList = withDollar ((number x).display n).toList := by
  have hgrouped : ((number x).display n).toList =
      signText x places ++ magnitudeText x places true := by
    rw [toList_display hx hn, shown_of_ne (by decide)]
    rfl
  have hplain : ((number x).display f).toList =
      signText x places ++ magnitudeText x places false := by
    rw [toList_display hx hf, shown_of_ne (by decide)]
    rfl
  have hdollars : ((number x).display c).toList =
      signText x places ++ '$' :: magnitudeText x places true := by
    rw [toList_display hx hc, shown_of_ne (by decide)]
    rfl
  rw [hgrouped, hplain, hdollars]
  refine ⟨filter_signed hx places, fun hfinite => ?_,
    (withDollar_magnitudeText hx places).symm⟩
  obtain ⟨hinfinite, -⟩ | ⟨-, b, hshape⟩ := shape_cases hx
  · cases hfinite.symm.trans hinfinite
  · obtain ⟨whole, fraction, hfixed, htext⟩ := exists_fixed places hshape
    obtain ⟨first, groups, hgroups, hwhole, hcommas⟩ := exists_groups hfixed.ne_nil
    refine ⟨_, first, groups, fraction, signText_mem x places, hgroups, hwhole ▸ hfixed, ?_⟩
    rw [(isMagnitude_of_fixed hfixed htext).text_eq, if_pos rfl, hcommas]
    exact (List.append_assoc _ _ _).symm

theorem display_thousands_million :
    ((number (-1234567.5)).display "n1").toList.filter (· ≠ ',') =
        ((number (-1234567.5)).display "F1").toList ∧
      (∃ sign first groups fraction, sign ∈ [[], ['-']] ∧ IsGrouped first groups ∧
        IsFixed 1 (first ++ groups.flatten) fraction ∧
        ((number (-1234567.5)).display "n1").toList =
          sign ++ (first ++ groups.flatMap (',' :: ·)) ++ pointed fraction) ∧
      ((number (-1234567.5)).display "c+01").toList =
        withDollar ((number (-1234567.5)).display "n1").toList ∧
      (number (-1234567.5)).display "n1" = "-1,234,567.5" := by
  obtain ⟨hplain, hgroups, hdollars⟩ := display_thousands
    (show (-1234567.5 : Float).isNaN = false by decide +kernel)
    (show IsFormat 'n' 1 "n1" by decide +kernel) (show IsFormat 'f' 1 "F1" by decide +kernel)
    (show IsFormat 'c' 1 "c+01" by decide +kernel)
  exact ⟨hplain, hgroups (by decide +kernel), hdollars, by decide +kernel⟩

end Spreadsheet.Value
