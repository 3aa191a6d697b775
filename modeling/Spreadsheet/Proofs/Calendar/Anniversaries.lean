import Spreadsheet.Proofs.Calendar.Periods

/-!
# Periods put together from years

An *anniversary* of a date is the date in another year with the same month and
day, or with the last day of the month where that is too short
(`clampedDate?_year`).  The years of a period lead from its start to one
anniversary, and the days without the years are counted from the last one that the
end has reached (`daysInYear_eq`).

These are the same anniversary, with one exception (`addYears?_daysInYear`).  A
year has passed only once the day of the start is reached, while an anniversary
that falls on the last day of a short February is reached on that day.  So a
period from a leap day to 28 February of a year without one has a year less by
the first count, and no days left by the second (`MissesLeapDay`).
-/

namespace Spreadsheet.Calendar

/-- The date some years later, on the same day of the month or, where the month is too short, on
its last one. -/
def Date.addYears? (d : Date) (years : Int) : Option Date :=
  clampedDate? (d.civil.year + years) d.civil.month d.civil.day

/-- A period starts on a leap day and ends on the last day of February in a year that has none. -/
structure MissesLeapDay (start finish : Date) : Prop where
  /-- The start lies in February. -/
  start_month : start.civil.month = 2
  /-- The start is a leap day. -/
  start_day : start.civil.day = 29
  /-- The end lies in February. -/
  finish_month : finish.civil.month = 2
  /-- The end is the day before a leap day would be. -/
  finish_day : finish.civil.day = 28
  /-- The end has no leap day behind it. -/
  finish_year : isLeapYear finish.civil.year = false

variable {start finish d : Date} {year : Int}

/-! ## Anniversaries -/

/-- The anniversary of a date in a year. -/
def Date.anniversary (d : Date) (year : Int) : Civil :=
  ⟨year, d.civil.month, min d.civil.day (monthLength year d.civil.month)⟩

theorem Date.anniversary_valid (d : Date) (year : Int) : (d.anniversary year).Valid where
  one_le_month := d.civil_valid.one_le_month
  month_le := d.civil_valid.month_le
  one_le_day := le_min d.civil_valid.one_le_day (le_trans (by decide) (le_monthLength _ _))
  day_le := min_le_right _ _

/-- The anniversary in a year of the calendar is a date. -/
theorem clampedDate?_year (d : Date) (hlow : yearBounds.1 ≤ year) (hhigh : year ≤ yearBounds.2) :
    clampedDate? year d.civil.month d.civil.day = some ⟨(d.anniversary year).dayNumber⟩ :=
  (d.anniversary_valid year).ofCivil?_eq hlow hhigh

/-- A date is its own anniversary in its year. -/
theorem Date.anniversary_self (d : Date) : d.anniversary d.civil.year = d.civil := by
  rw [anniversary, min_eq_left d.civil_valid.day_le]

/-- Anniversaries of a date in different years are different dates. -/
theorem anniversary_inj {year' : Int}
    (h : (d.anniversary year).dayNumber = (d.anniversary year').dayNumber) : year = year' :=
  congrArg Civil.year ((d.anniversary_valid year).eq_of_dayNumber (d.anniversary_valid year') h)

/-- An anniversary is reached in a later year, or in its own year once its month and its day
are. -/
theorem anniversary_le_iff :
    (start.anniversary year).dayNumber ≤ finish.number ↔
      year < finish.civil.year ∨ year = finish.civil.year ∧
        (start.civil.month < finish.civil.month ∨ start.civil.month = finish.civil.month ∧
          (start.anniversary year).day ≤ finish.civil.day) := by
  have hone := start.civil_valid.one_le_month
  have htwelve := start.civil_valid.month_le
  have hone' := finish.civil_valid.one_le_month
  have htwelve' := finish.civil_valid.month_le
  rw [← finish.dayNumber_civil,
    (start.anniversary_valid year).dayNumber_le_iff finish.civil_valid]
  unfold Civil.monthIndex Date.anniversary
  dsimp only
  omega

/-- Only February has different lengths, and it is shorter in years without a leap day. -/
theorem eq_of_monthLength_lt {year' : Int} {month : Nat}
    (h : monthLength year month < monthLength year' month) :
    month = 2 ∧ isLeapYear year = false ∧ monthLength year month = 28 ∧
      monthLength year' month = 29 := by
  have hfeb : month = 2 := by
    by_contra hne
    simp [monthLength, hne] at h
  subst hfeb
  cases hyear : isLeapYear year <;> cases hyear' : isLeapYear year' <;>
    simp_all [monthLength]

/-- The day of the start is still to come in the month of the end, and yet the anniversary in this
month is reached, only where the end misses a leap day. -/
theorem missesLeapDay_iff :
    MissesLeapDay start finish ↔
      start.civil.month = finish.civil.month ∧ finish.civil.day < start.civil.day ∧
        (start.anniversary finish.civil.year).day ≤ finish.civil.day := by
  have hstart := start.civil_valid.day_le
  have hfinish := finish.civil_valid.day_le
  unfold Date.anniversary
  dsimp only
  constructor
  · rintro ⟨hmonth, hday, hmonth', hday', hyear⟩
    rw [hmonth, hday, hmonth', hday']
    simp [monthLength, hyear]
  · rintro ⟨hmonth, hlt, hle⟩
    rw [← hmonth] at hfinish
    have hshorter : monthLength finish.civil.year start.civil.month <
        monthLength start.civil.year start.civil.month := by omega
    obtain ⟨hfeb, hyear, hshort, hlong⟩ := eq_of_monthLength_lt hshorter
    exact ⟨hfeb, by omega, by omega, by omega, hyear⟩

/-! ## Years and the days left over -/

/-- An earlier date does not lie in a later year. -/
theorem Date.year_le (h : start.number ≤ finish.number) :
    start.civil.year ≤ finish.civil.year := by
  rw [← start.dayNumber_civil, ← finish.dayNumber_civil,
    start.civil_valid.dayNumber_le_iff finish.civil_valid] at h
  rw [← start.civil_valid.year_eq, ← finish.civil_valid.year_eq]
  omega

/-- The years of a period are those between its ends, less one where the day of the start is still
to come in the last of them. -/
theorem wholeMonths_ediv (start finish : Date) :
    wholeMonths start finish / 12 =
      finish.civil.year - start.civil.year -
        if finish.civil.month < start.civil.month ∨
          finish.civil.month = start.civil.month ∧ finish.civil.day < start.civil.day
        then 1 else 0 := by
  have hone := start.civil_valid.one_le_month
  have htwelve := start.civil_valid.month_le
  have hone' := finish.civil_valid.one_le_month
  have htwelve' := finish.civil_valid.month_le
  unfold wholeMonths
  dsimp only
  split <;> split <;> omega

/-- The days without the years are those since the anniversary in the last year, or since the one
before it where that is still to come. -/
theorem daysInYear_eq (hstart : start.inBounds = true) (hfinish : finish.inBounds = true)
    (h : start.number ≤ finish.number) :
    ∃ year, start.civil.year ≤ year ∧
      year = finish.civil.year -
        (if (start.anniversary finish.civil.year).dayNumber ≤ finish.number then 0 else 1) ∧
      daysInYear start finish = finish.number - (start.anniversary year).dayNumber := by
  obtain ⟨hlow, -⟩ := Date.year_bounds hstart
  obtain ⟨hlow', hhigh'⟩ := Date.year_bounds hfinish
  have hyear := Date.year_le h
  simp only [daysInYear, clampedDate?_year start hlow' hhigh']
  by_cases hreached : (start.anniversary finish.civil.year).dayNumber ≤ finish.number
  · refine ⟨finish.civil.year, hyear, by rw [if_pos hreached]; omega, ?_⟩
    rw [Option.filter_some_pos (by simpa using hreached)]
    rfl
  · have hlt : start.civil.year < finish.civil.year := by
      refine lt_of_le_of_ne hyear fun heq => hreached ?_
      rwa [← heq, start.anniversary_self, start.dayNumber_civil]
    refine ⟨finish.civil.year - 1, by omega, by rw [if_neg hreached], ?_⟩
    rw [Option.filter_some_neg (by simpa using hreached), Option.none_or,
      clampedDate?_year start (by omega) (by omega), Option.getD_some]

/-- The years of a period and the days left over lead from its start to its end, unless it starts on
a leap day and ends on the last day of February in a year without one. -/
theorem addYears?_daysInYear (hstart : start.inBounds = true) (hfinish : finish.inBounds = true)
    (h : start.number ≤ finish.number) :
    0 ≤ wholeMonths start finish / 12 ∧ 0 ≤ daysInYear start finish ∧
      ((∃ moved, start.addYears? (wholeMonths start finish / 12) = some moved ∧
        moved.addDays? (daysInYear start finish) = some finish) ↔ ¬ MissesLeapDay start finish) := by
  obtain ⟨hlow, -⟩ := Date.year_bounds hstart
  obtain ⟨-, hhigh⟩ := Date.year_bounds hfinish
  have hyears := wholeMonths_ediv start finish
  have hnonneg : 0 ≤ wholeMonths start finish / 12 :=
    Int.ediv_nonneg (addMonths?_wholeMonths hstart hfinish h).1 (by decide)
  obtain ⟨year, hyear, hanchor, hdays⟩ := daysInYear_eq hstart hfinish h
  have hyearsHigh : start.civil.year + wholeMonths start finish / 12 ≤ finish.civil.year := by
    rw [hyears]
    split <;> omega
  have hreached : (start.anniversary finish.civil.year).dayNumber ≤ finish.number ↔ _ :=
    anniversary_le_iff
  refine ⟨hnonneg, ?_, ?_⟩
  · rw [hdays, sub_nonneg]
    split at hanchor
    next hle => rwa [hanchor, Int.sub_zero]
    next => exact anniversary_le_iff.2 (.inl (by omega))
  · -- Both anniversaries are the same date exactly when they lie in the same year.
    have hsame : (∃ moved, start.addYears? (wholeMonths start finish / 12) = some moved ∧
        moved.addDays? (daysInYear start finish) = some finish) ↔
        start.civil.year + wholeMonths start finish / 12 = year := by
      rw [Date.addYears?, clampedDate?_year start (by omega) (by omega), hdays]
      constructor
      · rintro ⟨moved, hmoved, hadd⟩
        obtain rfl := Option.some.inj hmoved
        have hnumber := (Date.addDays?_eq_some_iff.1 hadd).2
        dsimp only at hnumber
        exact anniversary_inj (d := start) (by omega)
      · rintro rfl
        refine ⟨_, rfl, Date.addDays?_eq_some_iff.2 ⟨hfinish, ?_⟩⟩
        dsimp only
        omega
    rw [hsame, missesLeapDay_iff, hanchor, hyears]
    have hday : (start.anniversary finish.civil.year).day ≤ start.civil.day := min_le_left _ _
    by_cases hle : (start.anniversary finish.civil.year).dayNumber ≤ finish.number
    · rw [if_pos hle]
      rw [hreached] at hle
      split <;> omega
    · rw [if_neg hle]
      rw [hreached] at hle
      split <;> omega

end Spreadsheet.Calendar
