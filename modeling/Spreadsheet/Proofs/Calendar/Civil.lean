import Mathlib
import Spreadsheet.Calendar.Date

/-!
# Day numbers and calendar dates

Every day number is that of one calendar date.  The date of a day number exists
in the calendar and has this number (`Date.civil_valid`, `Date.dayNumber_civil`),
and a date that exists is found again (`Civil.civil_dayNumber`).

Months are numbered through all years (`Civil.monthIndex`).  The first day of a
month comes as many days after that of the month before as that month has days
(`firstDay_succ`).  So later months have later days
(`firstDay_add_length_le`), and day numbers are in the order of year, month and day
(`Civil.dayNumber_le_iff`).
-/

namespace Spreadsheet.Calendar

/-- A date that exists in the calendar. -/
structure Civil.Valid (c : Civil) : Prop where
  /-- Months are counted from 1. -/
  one_le_month : 1 ≤ c.month
  /-- A year has twelve months. -/
  month_le : c.month ≤ 12
  /-- Days are counted from 1. -/
  one_le_day : 1 ≤ c.day
  /-- The month has that many days. -/
  day_le : c.day ≤ monthLength c.year c.month

theorem monthLength_le (year : Int) (month : Nat) : monthLength year month ≤ 31 := by
  unfold monthLength
  split
  · split <;> omega
  · split <;> omega

theorem le_monthLength (year : Int) (month : Nat) : 28 ≤ monthLength year month := by
  unfold monthLength
  split
  · split <;> omega
  · split <;> omega

theorem isLeapYear_iff (year : Int) :
    isLeapYear year = true ↔ year % 4 = 0 ∧ (year % 100 ≠ 0 ∨ year % 400 = 0) := by
  simp [isLeapYear]

/-! ## Years that begin in March -/

/-- The days between 1 March of the year zero and 1 March of a year. -/
def daysBefore (year : Int) : Int := 365 * year + year / 4 - year / 100 + year / 400

theorem daysBefore_succ (year : Int) :
    daysBefore (year + 1) = daysBefore year + if isLeapYear (year + 1) then 366 else 365 := by
  have hleap := isLeapYear_iff (year + 1)
  unfold daysBefore
  split
  next h =>
    rw [hleap] at h
    omega
  next h =>
    rw [hleap] at h
    omega

/-- The date a number of days after 1 March of a year. -/
def Civil.ofMarch (year days : Int) : Civil :=
  let month := (5 * days + 2) / 153
  let day := days - (153 * month + 2) / 5 + 1
  if month < 10 then ⟨year, (month + 3).toNat, day.toNat⟩
  else ⟨year + 1, (month - 9).toNat, day.toNat⟩

/-- A day of a cycle of 400 years, as a number of centuries, of four years each time, of years and
of days.  Only the last year of four can have a leap day, and that of a century only in the last
one. -/
structure CycleParts (n c q y i : Int) : Prop where
  /-- The parts add up. -/
  sum : n = 36524 * c + 1461 * q + 365 * y + i
  /-- There are four centuries. -/
  centuries : 0 ≤ c ∧ c ≤ 3
  /-- A century has 25 times four years. -/
  fours : 0 ≤ q ∧ q ≤ 24
  /-- These have four years. -/
  years : 0 ≤ y ∧ y ≤ 3
  /-- A year has 366 days at most. -/
  days : 0 ≤ i ∧ i ≤ 365
  /-- A leap day is the last day of its year. -/
  leap : i = 365 → y = 3 ∧ (q = 24 → c = 3)

theorem exists_cycleParts {n : Int} (hlow : 0 ≤ n) (hhigh : n < 146097) :
    ∃ c q y i, CycleParts n c q y i := by
  obtain ⟨c, hc⟩ : ∃ c, min (n / 36524) 3 = c := ⟨_, rfl⟩
  obtain ⟨m, hm⟩ : ∃ m, n - 36524 * c = m := ⟨_, rfl⟩
  obtain ⟨y, hy⟩ : ∃ y, min (m % 1461 / 365) 3 = y := ⟨_, rfl⟩
  have hcentury : (0 ≤ c ∧ c ≤ 3) ∧ 0 ≤ m ∧ m ≤ 36524 ∧ (m = 36524 → c = 3) := by omega
  clear hc
  refine ⟨c, m / 1461, y, m % 1461 - 365 * y, ?_, hcentury.1, ?_, ?_, ?_, ?_⟩ <;> omega

/-- The quotient that tells the year leaves no trace of leap days. -/
theorem CycleParts.year_eq {n c q y i : Int} (h : CycleParts n c q y i) :
    (n - n / 1460 + n / 36524 - n / 146096) / 365 = 100 * c + 4 * q + y := by
  obtain ⟨hsum, hc, hq, hy, hi, hleap⟩ := h
  have hcentury : n / 36524 - n / 146096 = c := by
    by_cases hlast : n = 146096
    · subst hlast
      omega
    · have hbounds : 36524 * c ≤ n ∧ n < 36524 * c + 36524 := by omega
      clear hsum
      omega
  have hfours : n / 1460 = 25 * c + q + (24 * c + q + 365 * y + i) / 1460 := by omega
  have hdays : 0 ≤ i - (24 * c + q + 365 * y + i) / 1460 ∧
      i - (24 * c + q + 365 * y + i) / 1460 < 365 := by omega
  omega

/-- The days of a cycle before the year that a day lies in. -/
theorem CycleParts.sub_eq {n c q y i : Int} (h : CycleParts n c q y i) :
    n - (365 * (100 * c + 4 * q + y) + (100 * c + 4 * q + y) / 4 - (100 * c + 4 * q + y) / 100) =
      i := by
  obtain ⟨hsum, hc, hq, hy, -, -⟩ := h
  have hfours : (100 * c + 4 * q + y) / 4 = 25 * c + q := by omega
  have hcentury : (100 * c + 4 * q + y) / 100 = c := by omega
  omega

/-- A date is a number of days after 1 March of a year, in which the days after a leap day follow
it. -/
theorem Date.exists_march (d : Date) :
    ∃ year days : Int, d.civil = .ofMarch year days ∧
      d.number + epochOffset = daysBefore year + days ∧ 0 ≤ days ∧ days ≤ 365 ∧
      (days = 365 → isLeapYear (year + 1) = true) := by
  obtain ⟨n, hn⟩ : ∃ n, (d.number + epochOffset) % 146097 = n := ⟨_, rfl⟩
  obtain ⟨cycle, hcycle⟩ : ∃ cycle, (d.number + epochOffset) / 146097 = cycle := ⟨_, rfl⟩
  obtain ⟨c, q, y, i, hparts⟩ := exists_cycleParts (n := n) (by omega) (by omega)
  refine ⟨100 * c + 4 * q + y + 400 * cycle, i, ?_, ?_, hparts.days.1, hparts.days.2, fun h => ?_⟩
  · simp only [Date.civil, hn, hcycle, hparts.year_eq, hparts.sub_eq, Civil.ofMarch]
  · have hnumber : d.number + epochOffset = 146097 * cycle + n := by omega
    have hsum := hparts.sum
    obtain ⟨-, hc, hq, hy, -, -⟩ := hparts
    rw [hnumber, daysBefore]
    clear hn hcycle hnumber
    have hfours : (100 * c + 4 * q + y + 400 * cycle) / 4 = 25 * c + q + 100 * cycle := by omega
    have hcenturies : (100 * c + 4 * q + y + 400 * cycle) / 100 = c + 4 * cycle := by omega
    have hcycles : (100 * c + 4 * q + y + 400 * cycle) / 400 = cycle := by omega
    omega
  · obtain ⟨rfl, hlast⟩ := hparts.leap h
    obtain ⟨-, hc, hq, -, -, -⟩ := hparts
    rw [isLeapYear_iff]
    clear hn hcycle
    omega

/-- A day after 1 March lies in one of the twelve months, which is as long as it has to be. -/
theorem Civil.ofMarch_valid {year days : Int} (hlow : 0 ≤ days) (hhigh : days ≤ 365)
    (hleap : days = 365 → isLeapYear (year + 1) = true) : (ofMarch year days).Valid := by
  obtain ⟨month, hmonth⟩ : ∃ month, (5 * days + 2) / 153 = month := ⟨_, rfl⟩
  have hbounds : 0 ≤ month ∧ month ≤ 11 := by omega
  simp only [ofMarch, hmonth]
  obtain ⟨hfirst, hlast⟩ := hbounds
  by_cases hfeb : month = 11
  · subst hfeb
    refine ⟨by norm_num, by norm_num, ?_, ?_⟩
    · change 1 ≤ Int.toNat _
      omega
    · change Int.toNat _ ≤ if isLeapYear (year + 1) then 29 else 28
      cases h : isLeapYear (year + 1) with
      | true =>
        rw [if_pos rfl]
        omega
      | false =>
        have hne : days ≠ 365 := fun h' => Bool.noConfusion ((hleap h').symm.trans h)
        rw [if_neg Bool.false_ne_true]
        omega
  · interval_cases month
    all_goals
      refine ⟨by norm_num, by norm_num, ?_, ?_⟩
      · norm_num
        omega
      · norm_num [monthLength]
        omega

theorem Civil.dayNumber_ofMarch {year days : Int} (hlow : 0 ≤ days) (hhigh : days ≤ 365) :
    (ofMarch year days).dayNumber = daysBefore year + days - epochOffset := by
  obtain ⟨month, hmonth⟩ : ∃ month, (5 * days + 2) / 153 = month := ⟨_, rfl⟩
  have hbounds : 0 ≤ month ∧ month ≤ 11 := by omega
  have hday : 0 ≤ days - (153 * month + 2) / 5 + 1 := by omega
  simp only [ofMarch, hmonth]
  split
  · have hyear : ¬ (month + 3).toNat ≤ 2 := by omega
    have hback : (((month + 3).toNat : Int) + 9) % 12 = month := by omega
    simp only [Civil.dayNumber, hyear, if_false, daysBefore, hback, Int.toNat_of_nonneg hday]
    ring
  · have hyear : (month - 9).toNat ≤ 2 := by omega
    have hback : (((month - 9).toNat : Int) + 9) % 12 = month := by omega
    simp only [Civil.dayNumber, hyear, if_true, daysBefore, hback, Int.toNat_of_nonneg hday,
      add_sub_cancel_right]
    ring

/-- The date of a day number exists. -/
theorem Date.civil_valid (d : Date) : d.civil.Valid := by
  obtain ⟨year, days, hcivil, -, hlow, hhigh, hleap⟩ := d.exists_march
  rw [hcivil]
  exact Civil.ofMarch_valid hlow hhigh hleap

/-- The date of a day number has this number. -/
theorem Date.dayNumber_civil (d : Date) : d.civil.dayNumber = d.number := by
  obtain ⟨year, days, hcivil, hnumber, hlow, hhigh, -⟩ := d.exists_march
  rw [hcivil, Civil.dayNumber_ofMarch hlow hhigh]
  omega

/-! ## Months -/

/-- The number of a month, counted through all years from January of the year zero. -/
def Civil.monthIndex (c : Civil) : Int := c.year * 12 + c.month - 1

/-- The day number of the first day of a month. -/
def firstDay (k : Int) : Int := (Civil.mk (k / 12) ((k % 12).toNat + 1) 1).dayNumber

/-- The number of days of a month. -/
def lengthOf (k : Int) : Nat := monthLength (k / 12) ((k % 12).toNat + 1)

variable {c c' : Civil} {k l : Int}

theorem Civil.Valid.year_eq (h : c.Valid) : c.monthIndex / 12 = c.year := by
  have := h.one_le_month
  have := h.month_le
  unfold monthIndex
  omega

theorem Civil.Valid.month_eq (h : c.Valid) : (c.monthIndex % 12).toNat + 1 = c.month := by
  have := h.one_le_month
  have := h.month_le
  unfold monthIndex
  omega

/-- A day is as many days after the first of its month as its number says. -/
theorem Civil.Valid.dayNumber_eq (h : c.Valid) :
    c.dayNumber = firstDay c.monthIndex + c.day - 1 := by
  rw [firstDay, h.year_eq, h.month_eq]
  simp only [dayNumber]
  omega

theorem Civil.Valid.length_eq (h : c.Valid) :
    lengthOf c.monthIndex = monthLength c.year c.month := by
  rw [lengthOf, h.year_eq, h.month_eq]

/-- The first day of a month, by the years before it and the days before it in its year. -/
theorem firstDay_eq (year : Int) {month : Nat} (h : month < 12) :
    firstDay (12 * year + month) =
      daysBefore (if month < 2 then year - 1 else year) +
        (153 * ((month + 10 : Nat) % 12 : Int) + 2) / 5 - epochOffset := by
  have hyear : (12 * year + (month : Int)) / 12 = year := by omega
  have hmonth : ((12 * year + (month : Int)) % 12).toNat = month := by omega
  have hless : month + 1 ≤ 2 ↔ month < 2 := by omega
  simp only [firstDay, hyear, hmonth, Civil.dayNumber, daysBefore, hless]
  push_cast
  ring_nf

/-- A month begins on the day after the one before it. -/
theorem firstDay_succ (k : Int) : firstDay (k + 1) = firstDay k + lengthOf k := by
  obtain ⟨year, month, hmonth, rfl⟩ :
      ∃ (year : Int) (month : Nat), month < 12 ∧ k = 12 * year + month :=
    ⟨k / 12, (k % 12).toNat, by omega, by omega⟩
  have hlength : lengthOf (12 * year + month) = monthLength year (month + 1) := by
    rw [lengthOf]
    congr 1
    · omega
    · omega
  rw [hlength, firstDay_eq year hmonth]
  by_cases hlast : month = 11
  · have hnext : 12 * year + (month : Int) + 1 = 12 * (year + 1) + (0 : Nat) := by
      rw [hlast]
      ring
    rw [hnext, firstDay_eq _ (by decide), hlast]
    simp [monthLength]
    ring
  · have hnext : 12 * year + (month : Int) + 1 = 12 * year + (month + 1 : Nat) := by
      push_cast
      ring
    rw [hnext, firstDay_eq year (by omega)]
    by_cases hfeb : month = 1
    · have hdays := daysBefore_succ (year - 1)
      rw [sub_add_cancel] at hdays
      subst hfeb
      simp [monthLength, hdays]
      split <;> ring
    · interval_cases month <;> simp_all [monthLength] <;> ring

/-- A month begins behind all earlier months. -/
theorem firstDay_add_length_le (h : k < l) : firstDay k + lengthOf k ≤ firstDay l := by
  rw [← firstDay_succ]
  induction l, h using Int.leInduction with
  | base => exact le_refl _
  | succ l _ ih =>
    rw [firstDay_succ l]
    omega

/-! ## The order of dates -/

/-- An earlier date lies in an earlier month, or in the same month on an earlier day. -/
theorem Civil.Valid.monthIndex_lt_or_of_le (hc : c.Valid) (hc' : c'.Valid)
    (h : c.dayNumber ≤ c'.dayNumber) :
    c.monthIndex < c'.monthIndex ∨ c.monthIndex = c'.monthIndex ∧ c.day ≤ c'.day := by
  rw [hc.dayNumber_eq, hc'.dayNumber_eq] at h
  have := hc.one_le_day
  obtain hlt | heq | hgt := lt_trichotomy c.monthIndex c'.monthIndex
  · exact .inl hlt
  · rw [heq] at h
    exact .inr ⟨heq, by omega⟩
  · have hmonths := firstDay_add_length_le hgt
    have hday := hc'.day_le
    rw [← hc'.length_eq] at hday
    omega

/-- Dates are in the order of their months, and of their days in one month. -/
theorem Civil.Valid.dayNumber_le_iff (hc : c.Valid) (hc' : c'.Valid) :
    c.dayNumber ≤ c'.dayNumber ↔
      c.monthIndex < c'.monthIndex ∨ c.monthIndex = c'.monthIndex ∧ c.day ≤ c'.day := by
  refine ⟨hc.monthIndex_lt_or_of_le hc', ?_⟩
  rw [hc.dayNumber_eq, hc'.dayNumber_eq]
  rintro (hlt | ⟨heq, hle⟩)
  · have hmonths := firstDay_add_length_le hlt
    have hday := hc.day_le
    have hone := hc'.one_le_day
    rw [← hc.length_eq] at hday
    omega
  · rw [heq]
    omega

/-- Different dates have different day numbers. -/
theorem Civil.Valid.eq_of_dayNumber (hc : c.Valid) (hc' : c'.Valid)
    (h : c.dayNumber = c'.dayNumber) : c = c' := by
  have hindex : c.monthIndex = c'.monthIndex ∧ c.day = c'.day := by
    have := hc.monthIndex_lt_or_of_le hc' h.le
    have := hc'.monthIndex_lt_or_of_le hc h.ge
    omega
  have hyear : c.year = c'.year := by rw [← hc.year_eq, ← hc'.year_eq, hindex.1]
  have hmonth : c.month = c'.month := by rw [← hc.month_eq, ← hc'.month_eq, hindex.1]
  cases c
  cases c'
  simp_all

/-- A date that exists is that of its day number. -/
theorem Civil.Valid.civil_dayNumber (hc : c.Valid) : (Date.mk c.dayNumber).civil = c :=
  (Date.civil_valid _).eq_of_dayNumber hc (Date.dayNumber_civil _)

/-- A date that exists and lies in the years of the calendar is found. -/
theorem Civil.Valid.ofCivil?_eq (hc : c.Valid) (hlow : yearBounds.1 ≤ c.year)
    (hhigh : c.year ≤ yearBounds.2) :
    Date.ofCivil? c.year c.month c.day = some ⟨c.dayNumber⟩ := by
  have hcond : (yearBounds.1 ≤ c.year && c.year ≤ yearBounds.2 && 1 ≤ c.month && c.month ≤ 12 &&
      1 ≤ c.day && c.day ≤ monthLength c.year c.month) = true := by
    simp [hlow, hhigh, hc.one_le_month, hc.month_le, hc.one_le_day, hc.day_le]
  rw [Date.ofCivil?, if_pos hcond]

/-- Days later than a date is the date of the calendar with the sum as its number. -/
theorem Date.addDays?_eq_some_iff {d d' : Date} {days : Int} :
    d.addDays? days = some d' ↔ d'.inBounds = true ∧ d.number + days = d'.number := by
  unfold addDays?
  dsimp only
  constructor
  · intro h
    split at h
    next hin =>
      obtain rfl := Option.some.inj h
      exact ⟨hin, rfl⟩
    next => cases h
  · rintro ⟨hin, hnumber⟩
    rw [hnumber]
    exact if_pos hin

end Spreadsheet.Calendar
