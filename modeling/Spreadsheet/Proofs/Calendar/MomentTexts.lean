import Spreadsheet.Calendar.Layout
import Spreadsheet.Calendar.Reader
import Spreadsheet.Proofs.Calendar.Civil
import Spreadsheet.Proofs.Grid.AddressText

/-!
# The texts of moments read back

A field of a layout takes digits, as many as it can (`readFields?_digits`).  So a
layout is followed through the text of a moment field by field, up to the field
that does not take what is there, or to the end of the text.

The year of a text has four digits and stands behind the month and the day.  A
layout that begins with the year stops at the first slash, or it takes two digits
of the year for a day and stops at the other two.  A layout that begins with the
month takes the date, and what follows must be the rest of the layout.  At
midnight nothing follows, and the layout of the date takes the whole text
(`Moment.read?_text_midnight`).  With a time the text ends in the half of the day,
which is no field of any layout, so no layout takes it
(`Moment.read?_text_eq_none`).
-/

namespace Spreadsheet.Calendar

open Spreadsheet.Decimal (number numberBelow numberBelow_eq_number digitsOf)
open Spreadsheet.Grid (digitsOf_eq digitsOf_ne_nil isDigit_of_mem_digitsOf number_digitsOf)
open Spreadsheet.Text (isBlank isDigit digitValue isBlank_eq_false dropWhile_isBlank trim trimStart
  trim_ofList takeWhile_append_of_stop asciiLower)

/-! ## Digits -/

/-- Digits that stand for a number and fit into a field of some width. -/
structure Digits (width n : Nat) (ds : List Char) : Prop where
  /-- Digits and nothing else. -/
  digit : ∀ c ∈ ds, isDigit c = true
  /-- At least one of them. -/
  ne_nil : ds ≠ []
  /-- Not more than the field takes. -/
  length_le : ds.length ≤ width
  /-- Their number. -/
  number_eq : number 0 ds = n

variable {width n : Nat} {c : Char} {ds rest : List Char}

/-- So many digits stand for a number below this power of ten. -/
theorem number_lt (acc : Nat) (h : ∀ c ∈ ds, isDigit c = true) :
    number acc ds < (acc + 1) * 10 ^ ds.length := by
  induction ds generalizing acc with
  | nil => simp [number]
  | cons c ds ih =>
    have hc : digitValue c ≤ 9 := by
      have hdigit := h c List.mem_cons_self
      simp only [isDigit, Bool.and_eq_true, decide_eq_true_eq] at hdigit
      unfold digitValue
      omega
    calc
      number acc (c :: ds) < (10 * acc + digitValue c + 1) * 10 ^ ds.length :=
        ih _ fun d hd => h d (List.mem_cons_of_mem c hd)
      _ ≤ ((acc + 1) * 10) * 10 ^ ds.length := Nat.mul_le_mul_right _ (by omega)
      _ = (acc + 1) * 10 ^ (c :: ds).length := by rw [List.length_cons, Nat.pow_succ]; ring

/-- The numbers that fields take are read to the end. -/
theorem Digits.lt_yearLimit (h : Digits width n ds) (hwidth : width ≤ 4) : n < yearLimit := by
  have hlt := number_lt 0 h.digit
  rw [h.number_eq] at hlt
  have hpow : 10 ^ ds.length ≤ 10 ^ 4 :=
    Nat.pow_le_pow_right (by decide) (h.length_le.trans hwidth)
  unfold yearLimit
  omega

theorem isBlank_of_isDigit (h : isDigit c = true) : isBlank c = false := by
  simp only [isDigit, Bool.and_eq_true, decide_eq_true_eq] at h
  exact isBlank_eq_false (by omega) (by omega)

theorem Digits.head? (h : Digits width n ds) (rest : List Char) :
    ∃ d ds', ds ++ rest = d :: ds' ∧ isDigit d = true := by
  obtain ⟨d, ds', rfl⟩ := List.exists_cons_of_ne_nil h.ne_nil
  exact ⟨d, ds' ++ rest, rfl, h.digit d List.mem_cons_self⟩

theorem Digits.trimStart_append (h : Digits width n ds) (rest : List Char) :
    trimStart (ds ++ rest) = ds ++ rest := by
  obtain ⟨d, ds', hds, hd⟩ := h.head? rest
  refine dropWhile_isBlank fun c hc => ?_
  rw [hds, List.head?_cons, Option.mem_some] at hc
  exact hc ▸ isBlank_of_isDigit hd

theorem length_digitsOf (h : n < 100) : (digitsOf n).length ≤ 2 :=
  (Nat.length_toDigits_le_iff (by decide) (by decide)).2 h

theorem digits_digitsOf (h : n < 100) : Digits 2 n (digitsOf n) :=
  ⟨fun _ => isDigit_of_mem_digitsOf, digitsOf_ne_nil n, length_digitsOf h, number_digitsOf n⟩

theorem number_replicate_zero (k : Nat) (ds : List Char) :
    number 0 (List.replicate k '0' ++ ds) = number 0 ds := by
  induction k with
  | zero => rfl
  | succ k ih => exact ih

theorem length_zeroPadded (h : (digitsOf n).length ≤ width) :
    (zeroPadded width n).length = width := by
  simp only [zeroPadded, List.length_append, List.length_replicate]
  omega

theorem digits_zeroPadded (h : (digitsOf n).length ≤ width) :
    Digits width n (zeroPadded width n) where
  digit c hc := by
    rw [zeroPadded, List.mem_append, List.mem_replicate] at hc
    obtain ⟨-, rfl⟩ | hc := hc
    · decide
    · exact isDigit_of_mem_digitsOf hc
  ne_nil hnil := digitsOf_ne_nil n (List.append_eq_nil_iff.1 hnil).2
  length_le := (length_zeroPadded h).le
  number_eq := by rw [zeroPadded, number_replicate_zero, number_digitsOf]

/-- A field takes the digits before something else, or as many as it can. -/
theorem takeNumber?_append (h : Digits width n ds) (hwidth : width ≤ 4)
    (hstop : ds.length = width ∨ ∀ c ∈ rest.head?, isDigit c = false) :
    takeNumber? width (ds ++ rest) = some (n, rest) := by
  have htake : ((ds ++ rest).take width).takeWhile isDigit = ds := by
    rw [List.take_append, List.take_of_length_le h.length_le]
    refine takeWhile_append_of_stop h.digit fun c hc => ?_
    obtain hfull | hstop := hstop
    · simp [hfull] at hc
    · rw [List.head?_take] at hc
      split at hc
      · simp at hc
      · exact hstop c hc
  have hnumber : numberBelow yearLimit 0 ds = n := by
    rw [numberBelow_eq_number, h.number_eq]
    exact h.number_eq.trans_lt (h.lt_yearLimit hwidth)
  simp only [takeNumber?, htake, List.isEmpty_eq_false_iff.2 h.ne_nil, hnumber, List.drop_left,
    Bool.false_eq_true, if_false]

/-! ## Fields -/

/-- How many digits a field takes that stands for a number. -/
def Field.width? : Field → Option Nat
  | .year => some 4
  | .month | .day | .hour | .minute | .second => some 2
  | .monthName | .blank | .mark _ => none

/-- The parts with another number in a field. -/
def Field.put (p : Parts) (n : Nat) : Field → Parts
  | .year => { p with year := n }
  | .month => { p with month := n }
  | .day => { p with day := n }
  | .hour => { p with hour := n }
  | .minute => { p with minute := n }
  | .second => { p with second := n }
  | .monthName | .blank | .mark _ => p

variable {f : Field} {fs : List Field} {p : Parts}

/-- A field for a number takes digits. -/
theorem readFields?_digits (hf : f.width? = some width) (h : Digits width n ds)
    (hstop : ds.length = width ∨ ∀ c ∈ rest.head?, isDigit c = false) :
    readFields? (f :: fs) p (ds ++ rest) = readFields? fs (f.put p n) rest := by
  have hwidth : width ≤ 4 := by
    cases f <;> simp [Field.width?] at hf <;> omega
  have htake := takeNumber?_append h hwidth hstop
  have hread : f.read? p (ds ++ rest) = some (f.put p n, rest) := by
    cases f with
    | year =>
      obtain rfl : width = 4 := (Option.some.inj hf).symm
      have hyear : takeYear? (ds ++ rest) = some ((n : Int), rest) := by
        obtain ⟨d, ds', hds, hd⟩ := h.head? rest
        rw [hds] at htake ⊢
        unfold takeYear?
        split
        next heq => cases heq; cases hd
        next heq => cases heq; cases hd
        next => rw [htake, Option.map_some]
      simp only [Field.read?, h.trimStart_append, hyear, Option.map_some, Field.put]
    | monthName => cases hf
    | blank => cases hf
    | mark c => cases hf
    | _ =>
      obtain rfl : width = 2 := (Option.some.inj hf).symm
      simp only [Field.read?, h.trimStart_append, htake, Option.map_some, Field.put]
  simp only [readFields?, hread]

theorem readFields?_mark (c : Char) (rest : List Char) :
    readFields? (.mark c :: fs) p (c :: rest) = readFields? fs p rest := by
  simp [readFields?, Field.read?]

theorem readFields?_mark_of_head? (h : ∀ d ∈ rest.head?, c ≠ d) :
    readFields? (.mark c :: fs) p rest = none := by
  cases rest with
  | nil => rfl
  | cons d rest => simp [readFields?, Field.read?, h d rfl]

theorem readFields?_blank (cs : List Char) :
    readFields? (.blank :: fs) p cs = readFields? fs p (trimStart cs) := rfl

theorem readFields?_nil_of_ne_nil (h : rest ≠ []) : readFields? [] p rest = none := by
  simp [readFields?, h]

/-- The name of a month begins with a letter. -/
theorem readFields?_monthName (h : ∀ d ∈ rest.head?, d.toNat < 65) :
    readFields? (.monthName :: fs) p rest = none := by
  have hnames : ∀ name ∈ monthNames, name.1.toList.head?.any (65 ≤ ·.toNat) = true := by decide
  have htake : takeMonthName? rest = none := by
    refine List.findSome?_eq_none_iff.2 fun entry hentry => ?_
    have hname := hnames entry.1 (List.fst_mem_of_mem_zipIdx hentry)
    rw [Option.any_eq_true] at hname
    obtain ⟨a, ha, hletter⟩ := hname
    have hdrop : dropWord? entry.1.1 rest = none := by
      refine if_neg fun heq => ?_
      rw [← heq, List.head?_map, List.head?_take] at ha
      split at ha
      · cases ha
      · obtain ⟨d, hd, rfl⟩ := Option.map_eq_some_iff.1 ha
        have hsmall := h d hd
        rw [asciiLower, if_neg (by simp; omega)] at hletter
        exact absurd (of_decide_eq_true hletter) (by omega)
    simp only [hdrop, Option.map_none]
  simp only [readFields?, Field.read?, htake, Option.map_none]

/-! ## Dates -/

theorem Digits.mono {width' : Nat} (h : Digits width n ds) (hle : width ≤ width') :
    Digits width' n ds :=
  ⟨h.digit, h.ne_nil, h.length_le.trans hle, h.number_eq⟩

/-- Two of four digits fill a field, and so do the other two. -/
theorem Digits.halves (h : Digits 4 n ds) (hlength : ds.length = 4) :
    Digits 2 (number 0 (ds.take 2)) (ds.take 2) ∧ Digits 2 (number 0 (ds.drop 2)) (ds.drop 2) ∧
      (ds.take 2).length = 2 ∧ (ds.drop 2).length = 2 := by
  have hfront : (ds.take 2).length = 2 := by rw [List.length_take, hlength]; rfl
  have hback : (ds.drop 2).length = 2 := by rw [List.length_drop, hlength]
  refine ⟨⟨fun c hc => h.digit c (List.mem_of_mem_take hc), fun hnil => ?_, hfront.le, rfl⟩,
    ⟨fun c hc => h.digit c (List.mem_of_mem_drop hc), fun hnil => ?_, hback.le, rfl⟩, hfront, hback⟩
  · rw [hnil] at hfront
    cases hfront
  · rw [hnil] at hback
    cases hback

/-- The digits of a month, a day and a year. -/
structure DateDigits (month day year : Nat) (ms ds ys : List Char) : Prop where
  /-- One or two digits are a month. -/
  monthDigits : Digits 2 month ms
  /-- One or two digits are a day. -/
  dayDigits : Digits 2 day ds
  /-- Four digits are a year. -/
  yearDigits : Digits 4 year ys
  /-- The year has all of them. -/
  length_year : ys.length = 4

/-- The month, the day and the year in this order, with slashes between them and something behind
them. -/
def dated (ms ds ys tail : List Char) : List Char := ms ++ '/' :: (ds ++ '/' :: (ys ++ tail))

namespace DateDigits

variable {month day year : Nat} {ms ys tail : List Char} (h : DateDigits month day year ms ds ys)
include h

theorem getLast?_dated :
    (dated ms ds ys tail).getLast? = tail.getLast?.or ys.getLast? := by
  have hparts : dated ms ds ys tail = (ms ++ '/' :: ds ++ ['/']) ++ (ys ++ tail) := by
    simp [dated]
  rw [hparts, List.getLast?_append_of_ne_nil _ (by simp [h.yearDigits.ne_nil]),
    List.getLast?_append]

/-- The month is taken for a year, but no dash follows. -/
theorem readFields?_year_dash :
    readFields? (.year :: .mark '-' :: fs) p (dated ms ds ys tail) = none := by
  rw [dated, readFields?_digits rfl (h.monthDigits.mono (by decide)) (.inr (by simp; decide)),
    readFields?_mark_of_head? (by simp)]

/-- The month and the day are taken for a year and a month, and two digits of the year for a
day. -/
theorem readFields?_year_slash
    (hfs : ∀ p, readFields? fs p (ys.drop 2 ++ tail) = none) :
    readFields? (dateWith '/' .year .month .day ++ fs) p (dated ms ds ys tail) = none := by
  obtain ⟨hfront, -, hlength, -⟩ := h.yearDigits.halves h.length_year
  have hyear : ys ++ tail = ys.take 2 ++ (ys.drop 2 ++ tail) := by
    rw [← List.append_assoc, List.take_append_drop]
  simp only [dateWith, dated, List.cons_append, List.nil_append]
  rw [readFields?_digits rfl (h.monthDigits.mono (by decide)) (.inr (by simp; decide)),
    readFields?_mark, readFields?_digits rfl h.dayDigits (.inr (by simp; decide)), readFields?_mark,
    hyear, readFields?_digits rfl hfront (.inl hlength), hfs]

/-- The date is taken in the order in which it is written. -/
theorem readFields?_month_slash :
    readFields? (dateWith '/' .month .day .year ++ fs) {} (dated ms ds ys tail) =
      readFields? fs { year := year, month := month, day := day } tail := by
  simp only [dateWith, dated, List.cons_append, List.nil_append]
  rw [readFields?_digits rfl h.monthDigits (.inr (by simp; decide)), readFields?_mark,
    readFields?_digits rfl h.dayDigits (.inr (by simp; decide)), readFields?_mark,
    readFields?_digits rfl h.yearDigits (.inl h.length_year)]
  rfl

/-- Only a layout that begins with the month goes beyond the date. -/
theorem readFields?_eq_none (htail : ∀ c ∈ tail.head?, ':' ≠ c) {fields : List Field}
    (hfields : fields ∈ layouts) (hhead : fields.head? ≠ some .month) :
    readFields? fields {} (dated ms ds ys tail) = none := by
  obtain ⟨-, hback, -, hlength⟩ := h.yearDigits.halves h.length_year
  have hdash {fs : List Field} :
      readFields? (.year :: .mark '-' :: fs) {} (dated ms ds ys tail) = none :=
    h.readFields?_year_dash
  simp only [layouts, List.mem_cons, List.not_mem_nil, or_false] at hfields
  obtain rfl | rfl | rfl | rfl | rfl | rfl | rfl | rfl | rfl | rfl | rfl := hfields
  · exact hdash
  · exact hdash
  · exact hdash
  · refine h.readFields?_year_slash fun p => ?_
    rw [readFields?_blank, hback.trimStart_append]
    simp only [longTimeFields, timeFields, List.cons_append]
    rw [readFields?_digits rfl hback (.inl hlength), readFields?_mark_of_head? htail]
  · exact absurd rfl hhead
  · exact absurd rfl hhead
  · exact hdash
  · have hne : ys.drop 2 ++ tail ≠ [] := fun hnil => hback.ne_nil (List.append_eq_nil_iff.1 hnil).1
    have hshort : readFields? (dateWith '/' .year .month .day ++ []) {} (dated ms ds ys tail) =
        none := h.readFields?_year_slash fun p => readFields?_nil_of_ne_nil hne
    exact hshort
  · exact absurd rfl hhead
  · rw [dated, readFields?_digits rfl h.monthDigits (.inr (by simp; decide)), readFields?_blank]
    have hslash (cs : List Char) : trimStart ('/' :: cs) = '/' :: cs :=
      dropWhile_isBlank (by simp; decide)
    rw [hslash]
    exact readFields?_monthName (by simp)
  · obtain ⟨d, rest, hfirst, hd⟩ := h.monthDigits.head? ('/' :: (ds ++ '/' :: (ys ++ tail)))
    simp only [isDigit, Bool.and_eq_true, decide_eq_true_eq] at hd
    rw [dated, hfirst]
    exact readFields?_monthName (by simp; omega)

end DateDigits

/-! ## Times -/

/-- Three layouts begin with the month. -/
theorem eq_of_head?_month {fields : List Field} (hfields : fields ∈ layouts)
    (hhead : fields.head? = some .month) :
    fields = dateWith '/' .month .day .year ++ .blank :: (timeFields ++ [.mark ':', .second]) ∨
      fields = dateWith '/' .month .day .year ++ .blank :: (timeFields ++ []) ∨
      fields = dateWith '/' .month .day .year ++ [] := by
  revert fields
  decide

/-- A time on the clock of a layout is taken up to its minutes. -/
theorem readFields?_time {hour minute : Nat} {hs ns : List Char} (hhour : Digits 2 hour hs)
    (hminute : Digits 2 minute ns) (hlength : ns.length = 2) :
    readFields? (.blank :: (timeFields ++ fs)) p (' ' :: (hs ++ ':' :: (ns ++ rest))) =
      readFields? fs { p with hour := hour, minute := minute } rest := by
  have hblank : trimStart (' ' :: (hs ++ ':' :: (ns ++ rest))) = hs ++ ':' :: (ns ++ rest) :=
    hhour.trimStart_append _
  simp only [readFields?_blank, hblank, timeFields, List.cons_append, List.nil_append]
  rw [readFields?_digits rfl hhour (.inr (by simp; decide)), readFields?_mark,
    readFields?_digits rfl hminute (.inl hlength)]
  rfl

namespace Moment

/-- What stands behind the minutes in the text of a moment. -/
def secondText (m : Moment) : List Char :=
  if m.second = 0 then m.halfDay else ':' :: (zeroPadded 2 m.writtenSecond ++ m.halfDay)

/-- What stands behind the date in the text of a moment. -/
def timeText (m : Moment) : List Char :=
  if m.isMidnight then []
  else ' ' :: (digitsOf m.clockHour ++ ':' :: (zeroPadded 2 m.minute ++ m.secondText))

/-- A time, if there is one, stands behind the date. -/
theorem text_eq (m : Moment) :
    m.text = String.ofList (dated (digitsOf m.date.civil.month) (digitsOf m.date.civil.day)
      (yearText m.date.civil.year) m.timeText) := by
  unfold text timeText secondText dated
  split
  · simp [shortDate]
  · split
    · simp [shortDateTime, shortDate, shortTime]
    · simp [shortDate, longTime]

variable {m : Moment}

theorem head?_halfDay : m.halfDay.head? = some ' ' := by
  unfold halfDay
  split <;> rfl

theorem getLast?_halfDay : m.halfDay.getLast? = some 'M' := by
  unfold halfDay
  split <;> rfl

theorem getLast?_secondText : m.secondText.getLast? = some 'M' := by
  unfold secondText
  split
  · exact getLast?_halfDay
  · simp [List.getLast?_append, List.getLast?_cons, getLast?_halfDay]

/-- A time ends in the half of the day. -/
theorem getLast?_timeText :
    m.timeText.getLast? = if m.isMidnight then none else some 'M' := by
  unfold timeText
  split
  · rfl
  · simp [List.getLast?_append, List.getLast?_cons, getLast?_secondText]

section

variable (hlow : 0 ≤ m.date.civil.year) (hhigh : m.date.civil.year ≤ 9999)
include hlow hhigh

theorem dateDigits : DateDigits m.date.civil.month m.date.civil.day m.date.civil.year.natAbs
    (digitsOf m.date.civil.month) (digitsOf m.date.civil.day) (yearText m.date.civil.year) := by
  have hvalid := m.date.civil_valid
  have hmonth := hvalid.month_le
  have hday := hvalid.day_le.trans (monthLength_le _ _)
  have hyear : (digitsOf m.date.civil.year.natAbs).length ≤ 4 :=
    (Nat.length_toDigits_le_iff (by decide) (by decide)).2 (by omega)
  have htext : yearText m.date.civil.year = zeroPadded 4 m.date.civil.year.natAbs := by
    rw [yearText, if_neg (by omega), if_pos hhigh]
  rw [htext]
  exact ⟨digits_digitsOf (by omega), digits_digitsOf (by omega), digits_zeroPadded hyear,
    length_zeroPadded hyear⟩

/-- There is nothing to trim. -/
theorem trim_text : trim m.text = m.text := by
  have hdate := dateDigits hlow hhigh
  rw [text_eq]
  refine trim_ofList (fun c hc => ?_) fun c hc => ?_
  · obtain ⟨d, rest, hfirst, hd⟩ := hdate.monthDigits.head? ('/' ::
      (digitsOf m.date.civil.day ++ '/' :: (yearText m.date.civil.year ++ m.timeText)))
    rw [dated, hfirst, List.head?_cons, Option.mem_some] at hc
    exact hc ▸ isBlank_of_isDigit hd
  · rw [hdate.getLast?_dated, getLast?_timeText, Option.mem_def, Option.or_eq_some_iff] at hc
    obtain hletter | ⟨-, hyear⟩ := hc
    · split at hletter
      · cases hletter
      · cases hletter
        decide
    · exact isBlank_of_isDigit (hdate.yearDigits.digit c (List.mem_of_getLast? hyear))

/-- The layouts are tried on the text as it was written. -/
theorem read?_text : read? m.text = layouts.findSome? fun fields =>
    (readFields? fields {} (dated (digitsOf m.date.civil.month) (digitsOf m.date.civil.day)
      (yearText m.date.civil.year) m.timeText)).bind Parts.moment? := by
  rw [read?, trim_text hlow hhigh, text_eq, String.toList_ofList]

omit hlow hhigh in
theorem eq_midnight (h : m.isMidnight = true) : midnight m.date = m := by
  obtain ⟨date, seconds, nanos⟩ := m
  simp only [isMidnight, Bool.and_eq_true, decide_eq_true_eq] at h
  obtain ⟨rfl, rfl⟩ := h
  rfl

/-- At midnight a text is read back to the moment that it was written for. -/
theorem read?_text_midnight (hmidnight : m.isMidnight = true) : read? m.text = some m := by
  have hdate := dateDigits hlow hhigh
  have htime : m.timeText = [] := if_pos hmidnight
  rw [read?_text hlow hhigh, htime, List.findSome?_eq_some_iff]
  refine ⟨layouts.take 8, dateWith '/' .month .day .year, layouts.drop 9, rfl, ?_,
    fun fields hfields => ?_⟩
  · have hread : readFields? (dateWith '/' .month .day .year ++ []) {} (dated _ _ _ []) = _ :=
      hdate.readFields?_month_slash
    have hyear : ((m.date.civil.year.natAbs : Nat) : Int) = m.date.civil.year := by omega
    have hcivil : Date.ofCivil? m.date.civil.year m.date.civil.month m.date.civil.day =
        some m.date := by
      rw [m.date.civil_valid.ofCivil?_eq ((by decide : yearBounds.1 ≤ 0).trans hlow)
        (hhigh.trans (by decide)), m.date.dayNumber_civil]
    rw [List.append_nil] at hread
    rw [hread, hyear]
    change (Date.ofCivil? m.date.civil.year m.date.civil.month m.date.civil.day).map midnight =
      some m
    rw [hcivil, Option.map_some, eq_midnight hmidnight]
  · have hother : ∀ fields ∈ layouts.take 8,
      fields ∈ layouts ∧ fields ≠ dateWith '/' .month .day .year := by decide
    obtain ⟨hmem, hne⟩ := hother fields hfields
    by_cases hhead : fields.head? = some .month
    · obtain rfl | rfl | rfl := eq_of_head?_month hmem hhead
      · rw [hdate.readFields?_month_slash]
        rfl
      · rw [hdate.readFields?_month_slash]
        rfl
      · exact absurd rfl hne
    · rw [hdate.readFields?_eq_none (by simp) hmem hhead, Option.bind_none]

/-- With a time of whole seconds no layout takes a text. -/
theorem read?_text_eq_none (hmidnight : m.isMidnight = false) (hnanos : m.nanos = 0) :
    read? m.text = none := by
  have hdate := dateDigits hlow hhigh
  have htime : m.timeText =
      ' ' :: (digitsOf m.clockHour ++ ':' :: (zeroPadded 2 m.minute ++ m.secondText)) :=
    if_neg (by simp [hmidnight])
  have hhour : m.clockHour < 100 := by
    unfold clockHour
    split <;> omega
  have hminute : m.minute < 100 := (Nat.mod_lt _ (by decide)).trans (by decide)
  have hsecond : m.writtenSecond < 100 := by
    unfold writtenSecond second
    omega
  rw [read?_text hlow hhigh, htime, List.findSome?_eq_none_iff]
  intro fields hmem
  by_cases hhead : fields.head? = some .month
  · obtain rfl | rfl | rfl := eq_of_head?_month hmem hhead
    · rw [hdate.readFields?_month_slash,
        readFields?_time (digits_digitsOf hhour) (digits_zeroPadded (length_digitsOf hminute))
          (length_zeroPadded (length_digitsOf hminute))]
      unfold secondText
      split
      · rw [readFields?_mark_of_head? (by rw [head?_halfDay]; simp), Option.bind_none]
      · rw [readFields?_mark, readFields?_digits rfl (digits_zeroPadded (length_digitsOf hsecond))
          (.inl (length_zeroPadded (length_digitsOf hsecond))),
          readFields?_nil_of_ne_nil (List.ne_nil_of_mem (List.mem_of_getLast? getLast?_halfDay)),
          Option.bind_none]
    · rw [hdate.readFields?_month_slash,
        readFields?_time (digits_digitsOf hhour) (digits_zeroPadded (length_digitsOf hminute))
          (length_zeroPadded (length_digitsOf hminute)),
        readFields?_nil_of_ne_nil (List.ne_nil_of_mem (List.mem_of_getLast? getLast?_secondText)),
        Option.bind_none]
    · rw [hdate.readFields?_month_slash, readFields?_nil_of_ne_nil (List.cons_ne_nil _ _),
        Option.bind_none]
  · rw [hdate.readFields?_eq_none (by simp) hmem hhead, Option.bind_none]

end

end Moment

end Spreadsheet.Calendar
