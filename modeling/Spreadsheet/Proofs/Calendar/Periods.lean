import Spreadsheet.Calendar.Period
import Spreadsheet.Proofs.Calendar.Civil

/-!
# Periods put together again

A period of whole months and the days left over leads from its start to its end
(`addMonths?_wholeMonths`).  The two are computed apart.  Where the day of the
start is not reached in the last month, one month less has passed, and the days
are counted from the month before, in which the day of the start may be missing.
That is the month to which moving the start by the whole months leads, and both
take its last day then.
-/

namespace Spreadsheet.Calendar

/-- The date some months later, on the same day of the month or, where the month is too short, on
its last one. -/
def Date.addMonths? (d : Date) (months : Int) : Option Date :=
  let k := d.civil.monthIndex + months
  Date.ofCivil? (k / 12) ((k % 12).toNat + 1) (min d.civil.day (lengthOf k))

variable {start finish : Date} {k : Int}

theorem Date.year_bounds {d : Date} (h : d.inBounds = true) :
    yearBounds.1 ≤ d.civil.year ∧ d.civil.year ≤ yearBounds.2 := by
  simpa [inBounds] using h

/-- In a month of the calendar there is a date on a day or on the last one before it. -/
theorem clampedDate?_month (hlow : yearBounds.1 ≤ k / 12) (hhigh : k / 12 ≤ yearBounds.2)
    {day : Nat} (hday : 1 ≤ day) :
    clampedDate? (k / 12) ((k % 12).toNat + 1) day =
      some ⟨firstDay k + (min day (lengthOf k) : Nat) - 1⟩ := by
  obtain ⟨c, hc⟩ : ∃ c, Civil.mk (k / 12) ((k % 12).toNat + 1) (min day (lengthOf k)) = c :=
    ⟨_, rfl⟩
  have hlength := le_monthLength (k / 12) ((k % 12).toNat + 1)
  have hindex : c.monthIndex = k := by
    rw [← hc, Civil.monthIndex]
    dsimp only
    omega
  have hvalid : c.Valid := by
    rw [← hc]
    exact ⟨by dsimp only; omega, by dsimp only; omega, le_min hday (by unfold lengthOf; omega),
      min_le_right _ _⟩
  have hfound := hvalid.ofCivil?_eq (by rwa [← hc]) (by rwa [← hc])
  rw [hvalid.dayNumber_eq, hindex, ← hc] at hfound
  exact hfound

/-- To move a date by months leads to a month of the calendar, on the same day or on the last. -/
theorem Date.addMonths?_eq {months : Int} (hk : start.civil.monthIndex + months = k)
    (hlow : yearBounds.1 ≤ k / 12) (hhigh : k / 12 ≤ yearBounds.2) :
    start.addMonths? months =
      some ⟨firstDay k + (min start.civil.day (lengthOf k) : Nat) - 1⟩ := by
  rw [← clampedDate?_month hlow hhigh start.civil_valid.one_le_day, addMonths?, hk]
  rfl

/-- The month before the one of a date, with the years told apart or not. -/
theorem previousMonth_eq {c : Civil} (hc : c.Valid) (day : Nat) :
    (if c.month = 1 then clampedDate? (c.year - 1) 12 day
      else clampedDate? c.year (c.month - 1) day) =
      clampedDate? ((c.monthIndex - 1) / 12) (((c.monthIndex - 1) % 12).toNat + 1) day := by
  have := hc.one_le_month
  have := hc.month_le
  unfold Civil.monthIndex
  split
  · congr 1 <;> omega
  · congr 1 <;> omega

/-- Where the day of the start is reached in the last month, the days are those since then. -/
theorem addMonths?_of_day_le (hfinish : finish.inBounds = true)
    (hday : start.civil.day ≤ finish.civil.day) :
    start.addMonths? (wholeMonths start finish) =
        some ⟨firstDay finish.civil.monthIndex + start.civil.day - 1⟩ ∧
      daysInMonth start finish = finish.civil.day - start.civil.day := by
  have hbounds := Date.year_bounds hfinish
  have hvalid := finish.civil_valid
  have hmonths : start.civil.monthIndex + wholeMonths start finish = finish.civil.monthIndex := by
    simp only [wholeMonths, Civil.monthIndex, if_neg hday.not_gt]
    omega
  have hlength : start.civil.day ≤ lengthOf finish.civil.monthIndex := by
    rw [hvalid.length_eq]
    exact hday.trans hvalid.day_le
  rw [Date.addMonths?_eq hmonths (by rw [hvalid.year_eq]; exact hbounds.1)
    (by rw [hvalid.year_eq]; exact hbounds.2), min_eq_left hlength]
  exact ⟨rfl, if_pos hday⟩

/-- Where it is not, the months lead to the month before, and the days are those since the day of
the start in it, or since its last one. -/
theorem addMonths?_of_day_lt (hstart : start.inBounds = true) (hfinish : finish.inBounds = true)
    (h : start.number ≤ finish.number) (hday : finish.civil.day < start.civil.day) :
    ∃ moved, start.addMonths? (wholeMonths start finish) = some moved ∧
      moved.number = firstDay (finish.civil.monthIndex - 1) +
        (min start.civil.day (lengthOf (finish.civil.monthIndex - 1)) : Nat) - 1 ∧
      daysInMonth start finish = finish.number - moved.number := by
  have hlow := (Date.year_bounds hstart).1
  have hhigh := (Date.year_bounds hfinish).2
  have hvalid := finish.civil_valid
  have hmonths : start.civil.monthIndex + wholeMonths start finish =
      finish.civil.monthIndex - 1 := by
    simp only [wholeMonths, Civil.monthIndex, if_pos hday]
    omega
  -- The start lies in an earlier month, so the month before is still one of the calendar.
  have hindex : start.civil.monthIndex < finish.civil.monthIndex := by
    rw [← start.dayNumber_civil, ← finish.dayNumber_civil] at h
    obtain hlt | ⟨-, hle⟩ := start.civil_valid.monthIndex_lt_or_of_le hvalid h
    · exact hlt
    · omega
  rw [← start.civil_valid.year_eq] at hlow
  rw [← hvalid.year_eq] at hhigh
  have hlow' : yearBounds.1 ≤ (finish.civil.monthIndex - 1) / 12 := by omega
  have hhigh' : (finish.civil.monthIndex - 1) / 12 ≤ yearBounds.2 := by omega
  refine ⟨_, Date.addMonths?_eq hmonths hlow' hhigh', rfl, ?_⟩
  simp only [daysInMonth, if_neg hday.not_ge, previousMonth_eq hvalid]
  rw [clampedDate?_month hlow' hhigh' start.civil_valid.one_le_day, Option.getD_some]

/-- The whole months of a period and the days left over lead from its start to its end. -/
theorem addMonths?_wholeMonths (hstart : start.inBounds = true) (hfinish : finish.inBounds = true)
    (h : start.number ≤ finish.number) :
    0 ≤ wholeMonths start finish ∧ 0 ≤ daysInMonth start finish ∧ daysInMonth start finish ≤ 30 ∧
      ∃ moved, start.addMonths? (wholeMonths start finish) = some moved ∧
        moved.addDays? (daysInMonth start finish) = some finish := by
  have hvalid := finish.civil_valid
  have hnumber := hvalid.dayNumber_eq
  rw [finish.dayNumber_civil] at hnumber
  have hmonths : 0 ≤ wholeMonths start finish := by
    have horder := start.civil_valid.monthIndex_lt_or_of_le hvalid
      (by rwa [start.dayNumber_civil, finish.dayNumber_civil])
    unfold Civil.monthIndex at horder
    simp only [wholeMonths]
    split <;> omega
  have hone := start.civil_valid.one_le_day
  have hone' := hvalid.one_le_day
  have hlast := start.civil_valid.day_le.trans (monthLength_le _ _)
  have hlast' := hvalid.day_le.trans (monthLength_le _ _)
  -- Moving on to the end is possible, since the end is a date of the calendar.
  have hadd {moved : Date} {days : Int} (hdays : moved.number + days = finish.number) :
      moved.addDays? days = some finish := by
    simp only [Date.addDays?, hdays]
    exact if_pos hfinish
  by_cases hday : start.civil.day ≤ finish.civil.day
  · obtain ⟨hmoved, hdays⟩ := addMonths?_of_day_le hfinish hday
    refine ⟨hmonths, by omega, by omega, _, hmoved, hadd ?_⟩
    rw [hdays, hnumber]
    dsimp only
    omega
  · obtain ⟨moved, hmoved, hfirst, hdays⟩ :=
      addMonths?_of_day_lt hstart hfinish h (Nat.lt_of_not_le hday)
    have hprevious := firstDay_succ (finish.civil.monthIndex - 1)
    rw [sub_add_cancel] at hprevious
    have hlength : lengthOf (finish.civil.monthIndex - 1) ≤ 31 := monthLength_le _ _
    refine ⟨hmonths, ?_, ?_, moved, hmoved, hadd (by omega)⟩
    · omega
    · omega

end Spreadsheet.Calendar
