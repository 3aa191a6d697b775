import Mathlib.Data.List.Induction
import Mathlib.Data.List.TakeWhile
import Spreadsheet.Proofs.Grid.AddressText
import Spreadsheet.Proofs.Grid.Part

/-!
# Addresses and ranges there and back

What is read as an address is written again in one spelling: without the white
space around it, in capital letters, and without the zeros in front of the row
number (`Address.Form.text_address`).  The letters are those of the column
letters, and for the digits there is the same kind of induction on the last one
(`digitsOf_number`).

A range is read from two corners, in either order (`Range.read_colon`), and it
is the least range that has both (`Range.ofCorners_within`).  Reading trims
three times, the whole text and each corner, so trimming is described by the
white space that it takes away (`exists_blanks_around_trim`, `trim_blanks_around`).
-/

namespace Spreadsheet.Text

/-! ## White space around a text -/

/-- What is trimmed is white space. -/
theorem exists_blanks_around_trim (s : String) : ∃ front back,
    s.toList = front ++ ((trim s).toList ++ back) ∧ (∀ c ∈ front, isBlank c = true) ∧
      ∀ c ∈ back, isBlank c = true := by
  refine ⟨s.toList.takeWhile isBlank, ((trimStart s.toList).reverse.takeWhile isBlank).reverse, ?_,
    fun _ => List.mem_takeWhile_imp, fun _ hc => List.mem_takeWhile_imp (List.mem_reverse.1 hc)⟩
  rw [trim, String.toList_ofList, trimEnd, ← List.reverse_append, List.takeWhile_append_dropWhile,
    List.reverse_reverse, trimStart, List.takeWhile_append_dropWhile]

/-- White space around a text is trimmed. -/
theorem trim_blanks_around {front cs back : List Char} (hfront : ∀ c ∈ front, isBlank c = true)
    (hback : ∀ c ∈ back, isBlank c = true) (hne : cs ≠ [])
    (hhead : ∀ c ∈ cs.head?, isBlank c = false) (hlast : ∀ c ∈ cs.getLast?, isBlank c = false) :
    trim (String.ofList (front ++ (cs ++ back))) = String.ofList cs := by
  have hstart : trimStart (front ++ (cs ++ back)) = cs ++ back := by
    refine dropWhile_append_of_stop hfront fun c hc => hhead c ?_
    rwa [List.head?_append_of_ne_nil _ hne] at hc
  have hend : trimEnd (cs ++ back) = cs := by
    rw [trimEnd, List.reverse_append, dropWhile_append_of_stop, List.reverse_reverse]
    · exact fun c hc => hback c (List.mem_reverse.1 hc)
    · rwa [List.head?_reverse]
  rw [trim, String.toList_ofList, hstart, hend]

end Spreadsheet.Text

namespace Spreadsheet.Grid

open Spreadsheet.Text (isDigit digitValue isBlank trim trim_eq_self toNat_lt_of_isDigit
  exists_blanks_around_trim trim_blanks_around)
open Spreadsheet.Decimal (number digitsOf)

/-! ## Zeros in front of a number -/

theorem number_concat (ds : List Char) (c : Char) :
    number 0 (ds ++ [c]) = 10 * number 0 ds + digitValue c := by
  rw [number, List.foldl_concat]
  rfl

/-- A digit is the one that its value is written with. -/
theorem digitChar_digitValue {c : Char} (h : isDigit c = true) :
    digitValue c < 10 ∧ Nat.digitChar (digitValue c) = c := by
  have hall : ∀ c : Char, c.toNat < 128 → isDigit c = true →
      digitValue c < 10 ∧ Nat.digitChar (digitValue c) = c := by decide +kernel
  exact hall c (toNat_lt_of_isDigit h) h

/-- Digits that stand for zero are zeros, and the digits of another number are those that are left
without the zeros in front. -/
theorem dropWhile_zero_eq {ds : List Char} (h : ∀ c ∈ ds, isDigit c = true) :
    ds.dropWhile (· = '0') = if number 0 ds = 0 then [] else digitsOf (number 0 ds) := by
  induction ds using List.reverseRecOn with
  | nil => rfl
  | append_singleton ds c ih =>
    rw [List.forall_mem_append, List.forall_mem_singleton] at h
    obtain ⟨hlt, hc⟩ := digitChar_digitValue h.2
    have hzero : c = '0' ↔ digitValue c = 0 :=
      ⟨fun h => h ▸ rfl, fun h => by rw [← hc, h]; rfl⟩
    rw [List.dropWhile_append, ih h.1, number_concat]
    by_cases hfront : number 0 ds = 0
    · -- All digits before are zeros, so the last one is left if it is not one.
      rw [if_pos hfront, List.isEmpty_nil, if_pos rfl, hfront, Nat.mul_zero, Nat.zero_add]
      by_cases hlast : digitValue c = 0
      · rw [if_pos hlast, hzero.2 hlast]
        rfl
      · rw [if_neg hlast, digitsOf_eq, if_pos hlt, hc]
        exact List.dropWhile_cons_of_neg (by simpa [hzero] using hlast)
    · have hquotient : (10 * number 0 ds + digitValue c) / 10 = number 0 ds := by omega
      have hremainder : (10 * number 0 ds + digitValue c) % 10 = digitValue c := by omega
      rw [if_neg hfront, List.isEmpty_eq_false_iff.2 (digitsOf_ne_nil _), if_neg Bool.false_ne_true,
        if_neg (by omega), digitsOf_eq (10 * number 0 ds + digitValue c), if_neg (by omega),
        hquotient, hremainder, hc]

/-- A number is written with the digits that it was read from, without the zeros in front. -/
theorem digitsOf_number {ds : List Char} (h : ∀ c ∈ ds, isDigit c = true) (hpos : 0 < number 0 ds) :
    digitsOf (number 0 ds) = ds.dropWhile (· = '0') := by
  rw [dropWhile_zero_eq h, if_neg (Nat.ne_of_gt hpos)]

namespace Address

/-! ## Addresses -/

namespace Form

variable {f : Form}

theorem address_row_add_one (f : Form) : f.address.row + 1 = number 0 f.digits :=
  Nat.sub_add_cancel f.digits_pos

theorem address_column_add_one (f : Form) : f.address.column + 1 = lettersNumber f.letters :=
  Nat.sub_add_cancel (lettersNumber_pos f.letters_ne_nil f.isAsciiLetter)

/-- An address that has been read is written in capital letters and without zeros in front. -/
theorem text_address (f : Form) : f.address.text.toList = dollar f.columnAbsolute ++
    (f.letters.map Char.toUpper ++ (dollar f.rowAbsolute ++ f.digits.dropWhile (· = '0'))) := by
  rw [toList_text, address_row_add_one, address_column_add_one,
    lettersOf_lettersNumber f.isAsciiLetter, digitsOf_number f.isDigit f.digits_pos]
  rfl

theorem text_ne_nil (f : Form) : f.text ≠ [] := by
  simp [text, f.letters_ne_nil]

theorem read_around (f : Form) {front back : List Char} (hfront : ∀ c ∈ front, isBlank c = true)
    (hback : ∀ c ∈ back, isBlank c = true) :
    Address.read (String.ofList (front ++ (f.text ++ back))) = .ok f.address := by
  have htrim := trim_blanks_around hfront hback f.text_ne_nil
    (fun c hc => isBlank_of_mem_text (List.mem_of_head? hc))
    (fun c hc => isBlank_of_mem_text (List.mem_of_getLast? hc))
  exact Form.read (by rw [htrim, String.toList_ofList])

/-- There is no colon in an address. -/
theorem ne_colon_of_mem_text {c : Char} (h : c ∈ f.text) : c ≠ ':' := by
  rintro rfl
  rcases mem_text h with h | h | h
  · exact absurd h (by decide)
  · exact absurd h (by decide)
  · exact absurd h (by decide)

end Form

/-- The texts of addresses are those that are read. -/
theorem read_eq_ok_iff {s : String} :
    (∃ a, Address.read s = .ok a) ↔ ∃ f : Form, (trim s).toList = f.text := by
  constructor
  · rintro ⟨a, h⟩
    obtain ⟨f, hf, -⟩ := exists_form_of_read h
    exact ⟨f, hf⟩
  · rintro ⟨f, hf⟩
    exact ⟨f.address, f.read hf⟩

end Address

namespace Range

open Address (Form)

variable {r : Range} {f g : Form} {s t : String}

/-! ## Ranges -/

theorem splitColon?_append {front : List Char} (h : ∀ c ∈ front, c ≠ ':') (back : List Char) :
    splitColon? (front ++ ':' :: back) = some (front, back) := by
  have hfront : ∀ c ∈ front, decide (c ≠ ':') = true := fun c hc => decide_eq_true (h c hc)
  unfold splitColon?
  rw [Text.dropWhile_append_of_stop hfront (by simp), Text.takeWhile_append_of_stop hfront (by simp)]

theorem splitColon?_eq_none {cs : List Char} (h : ∀ c ∈ cs, c ≠ ':') : splitColon? cs = none := by
  unfold splitColon?
  rw [List.dropWhile_eq_nil_iff.2 fun c hc => decide_eq_true (h c hc)]

/-- Two addresses with a colon between them are read as the range with these corners. -/
theorem read_colon (hs : (trim s).toList = f.text) (ht : (trim t).toList = g.text) :
    Range.read (s ++ ":" ++ t) = .ok (ofCorners f.address g.address) := by
  obtain ⟨front, after, hs', hfront, hafter⟩ := exists_blanks_around_trim s
  obtain ⟨before, back, ht', hbefore, hback⟩ := exists_blanks_around_trim t
  rw [hs] at hs'
  rw [ht] at ht'
  have hwhole : s ++ ":" ++ t = String.ofList
      (front ++ (((f.text ++ after) ++ ':' :: (before ++ g.text)) ++ back)) := by
    rw [← String.toList_inj, String.toList_append, String.toList_append, hs', ht',
      String.toList_ofList]
    simp
  have htrim : trim (s ++ ":" ++ t) =
      String.ofList ((f.text ++ after) ++ ':' :: (before ++ g.text)) := by
    rw [hwhole]
    refine trim_blanks_around hfront hback (by simp) (fun c hc => ?_) fun c hc => ?_
    · rw [List.append_assoc, List.head?_append_of_ne_nil _ f.text_ne_nil] at hc
      exact Form.isBlank_of_mem_text (List.mem_of_head? hc)
    · rw [← List.cons_append, ← List.append_assoc,
        List.getLast?_append_of_ne_nil _ g.text_ne_nil] at hc
      exact Form.isBlank_of_mem_text (List.mem_of_getLast? hc)
  have hcolon : ∀ c ∈ f.text ++ after, c ≠ ':' := by
    intro c hc
    rcases List.mem_append.1 hc with hc | hc
    · exact Form.ne_colon_of_mem_text hc
    · rintro rfl
      exact absurd (hafter _ hc) (by decide)
  have hfirst := f.read_around (List.forall_mem_nil _) hafter
  have hsecond := g.read_around hbefore (List.forall_mem_nil _)
  rw [List.nil_append] at hfirst
  rw [List.append_nil] at hsecond
  unfold Range.read
  simp only [htrim, String.toList_ofList, splitColon?_append hcolon, hfirst, hsecond]

theorem ofCorners_comm (a b : Address) : ofCorners a b = ofCorners b a :=
  Range.ext (Nat.min_comm ..) (Nat.min_comm ..) (Nat.max_comm ..) (Nat.max_comm ..)

/-- A range has its corners. -/
theorem ofCorners_contains (a b : Address) : (ofCorners a b).contains a.row a.column = true ∧
    (ofCorners a b).contains b.row b.column = true := by
  simp only [contains_iff, ofCorners]
  omega

/-- A range lies inside every other that has its corners. -/
theorem ofCorners_within {a b : Address} (ha : r.contains a.row a.column = true)
    (hb : r.contains b.row b.column = true) : (ofCorners a b).Within r := by
  simp only [contains_iff] at ha hb
  simp only [Within, ofCorners]
  omega

/-- A range whose numbers are below the limit is read back. -/
theorem read_text (hrow : r.bottom + 1 < indexLimit) (hcolumn : r.right + 1 < indexLimit) :
    Range.read r.text = .ok r := by
  have htop : r.top + 1 < indexLimit := Nat.lt_of_le_of_lt (Nat.succ_le_succ r.top_le) hrow
  have hleft : r.left + 1 < indexLimit := Nat.lt_of_le_of_lt (Nat.succ_le_succ r.left_le) hcolumn
  have hfirst := Address.read_text (a := r.corners.1) htop hleft
  have hsecond := Address.read_text (a := r.corners.2) hrow hcolumn
  obtain ⟨f, hf, haddress⟩ := Address.exists_form_of_read hfirst
  cases hsingle : r.isSingle with
  | true =>
    have htrim : trim r.corners.1.text = r.corners.1.text :=
      trim_eq_self fun _ => Address.isBlank_of_mem_text
    have hcolon : ∀ c ∈ r.corners.1.text.toList, c ≠ ':' := by
      rw [← htrim, hf]
      exact fun _ => Form.ne_colon_of_mem_text
    rw [text_of_isSingle hsingle]
    unfold Range.read
    simp only [htrim, splitColon?_eq_none hcolon, hfirst, single_corners hsingle]
  | false =>
    obtain ⟨g, hg, haddress'⟩ := Address.exists_form_of_read hsecond
    rw [text, if_neg (by simp [hsingle]), read_colon hf hg, haddress, haddress', ofCorners_corners]

end Range

/-- Addresses and ranges are read as they are written.  The texts that are read as addresses are,
without white space around them, those with a form: column letters and the digits of a row number,
of which both count from one and less than the limit, each perhaps behind a `$`.  The address has
what they count, less one, and both marks, and it is written with capital letters and without zeros
in front of the row number.  Addresses and ranges whose numbers are below the limit are read back
from their texts.  Two texts that are read as addresses, with a colon between them and in either
order, are read as the least range that has both cells. -/
theorem read_text_round_trip :
    (∀ s : String, (∃ a, Address.read s = .ok a) ↔
        ∃ f : Address.Form, (trim s).toList = f.text) ∧
      (∀ (s : String) (f : Address.Form), (trim s).toList = f.text → ∃ a,
        Address.read s = .ok a ∧ a.row + 1 = number 0 f.digits ∧
          a.column + 1 = lettersNumber f.letters ∧ a.rowAbsolute = f.rowAbsolute ∧
          a.columnAbsolute = f.columnAbsolute ∧
          a.text.toList = Address.dollar f.columnAbsolute ++ (f.letters.map Char.toUpper ++
            (Address.dollar f.rowAbsolute ++ f.digits.dropWhile (· = '0')))) ∧
      (∀ a : Address, a.row + 1 < indexLimit → a.column + 1 < indexLimit →
        Address.read a.text = .ok a) ∧
      (∀ r : Range, r.bottom + 1 < indexLimit → r.right + 1 < indexLimit →
        Range.read r.text = .ok r) ∧
      ∀ (s t : String) (a b : Address), Address.read s = .ok a → Address.read t = .ok b → ∃ r,
        Range.read (s ++ ":" ++ t) = .ok r ∧ Range.read (t ++ ":" ++ s) = .ok r ∧
          r.contains a.row a.column = true ∧ r.contains b.row b.column = true ∧
          ∀ r' : Range, r'.contains a.row a.column = true → r'.contains b.row b.column = true →
            r.Within r' := by
  refine ⟨fun _ => Address.read_eq_ok_iff, fun s f hf => ?_, fun _ => Address.read_text,
    fun _ => Range.read_text, fun s t a b hs ht => ?_⟩
  · exact ⟨f.address, f.read hf, f.address_row_add_one, f.address_column_add_one, rfl, rfl,
      f.text_address⟩
  · obtain ⟨f, hf, rfl⟩ := Address.exists_form_of_read hs
    obtain ⟨g, hg, rfl⟩ := Address.exists_form_of_read ht
    obtain ⟨ha, hb⟩ := Range.ofCorners_contains f.address g.address
    refine ⟨Range.ofCorners f.address g.address, Range.read_colon hf hg, ?_, ha, hb,
      fun r => Range.ofCorners_within⟩
    rw [Range.read_colon hg hf, Range.ofCorners_comm]

/-- Marks, lower case, zeros and white space, the last cell that can be named, and corners in either
order. -/
theorem read_text_round_trip_at_limit :
    let f : Address.Form := ⟨true, ['a', 'b'], true, ['0', '0', '1', '0'], by decide,
      List.all_eq_true.1 rfl, by decide, List.all_eq_true.1 rfl, by decide, by decide⟩
    let last : Address := ⟨18446744073709551614, 18446744073709551614, true, false, by decide,
      by decide⟩
    let whole : Range := ⟨0, 0, 18446744073709551614, 18446744073709551614, by decide, by decide,
      by decide, by decide⟩
    let c3 : Address := ⟨2, 2, false, false, by decide, by decide⟩
    let a1 : Address := ⟨0, 0, true, true, by decide, by decide⟩
    let corner : Range := ⟨0, 0, 3, 3, by decide, by decide, by decide, by decide⟩
    ((trim " $ab$0010\t").toList = f.text ∧ ∃ a, Address.read " $ab$0010\t" = .ok a ∧
        a.row = 9 ∧ a.column = 27 ∧ a.text.toList = "$AB$10".toList) ∧
      (last.row + 1 < indexLimit ∧ last.column + 1 < indexLimit ∧
        Address.read last.text = .ok last) ∧
      (whole.bottom + 1 < indexLimit ∧ whole.right + 1 < indexLimit ∧
        Range.read whole.text = .ok whole) ∧
      (Address.read " c3 " = .ok c3 ∧ Address.read "$A$01" = .ok a1 ∧
        corner.contains c3.row c3.column = true ∧ corner.contains a1.row a1.column = true ∧
        ∃ r, Range.read " c3 :$A$01" = .ok r ∧ Range.read "$A$01: c3 " = .ok r ∧
          r.Within corner) := by
  intro f last whole c3 a1 corner
  obtain ⟨-, hform, haddress, hrange, hcorners⟩ := read_text_round_trip
  have htrim : (trim " $ab$0010\t").toList = f.text := by decide +kernel
  obtain ⟨a, hread, hrow, hcolumn, -, -, htext⟩ := hform " $ab$0010\t" f htrim
  have hc3 : Address.read " c3 " = .ok c3 := by rfl
  have ha1 : Address.read "$A$01" = .ok a1 := by rfl
  obtain ⟨r, hone, hother, -, -, hleast⟩ := hcorners " c3 " "$A$01" c3 a1 hc3 ha1
  refine ⟨⟨htrim, a, hread, Nat.succ.inj hrow, Nat.succ.inj (hcolumn.trans (by decide)), htext⟩,
    ⟨by decide, by decide, haddress last (by decide) (by decide)⟩,
    ⟨by decide, by decide, hrange whole (by decide) (by decide)⟩,
    hc3, ha1, by decide, by decide, r, hone, hother, hleast corner (by decide) (by decide)⟩

end Spreadsheet.Grid
