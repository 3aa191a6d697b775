import Spreadsheet.Calendar.Period
import Spreadsheet.Proofs.Calendar.Civil

/-!
# Dates from years, months and days

A year, a month and a day that are out of bounds roll into their neighbours: the
years and months make a number of months, and the days are counted on from the
first day of that month (`rolledDate?_eq_some_iff`).  The numbers on the way have to
fit into 64 bits, and both the first day and the result have to lie in the calendar.

So twelve months more are one year more (`rolledDate?_add_twelve`), and the days of a
month more are one month more (`rolledDate?_add_length`), wherever both dates exist.
A date that exists is made from its own year, month and day
(`Civil.Valid.rolledDate?_eq`).
-/

namespace Spreadsheet.Calendar

open Spreadsheet.Decimal (wholeBounds)

variable {year month day : Int} {d d' : Date}

/-- A whole number fits into 64 bits with a sign. -/
def Fits (n : Int) : Prop := wholeBounds.1 ≤ n ∧ n ≤ wholeBounds.2

theorem fits64?_eq_some_iff {n k : Int} : fits64? n = some k ↔ Fits n ∧ n = k := by
  simp [fits64?, Fits]

/-- The first day of a month is a date of the calendar when its year is one. -/
theorem ofCivil?_first_eq_some_iff {k : Int} :
    Date.ofCivil? (k / 12) ((k % 12).toNat + 1) 1 = some d ↔
      (yearBounds.1 ≤ k / 12 ∧ k / 12 ≤ yearBounds.2) ∧ d.number = firstDay k := by
  have hvalid : (Civil.mk (k / 12) ((k % 12).toNat + 1) 1).Valid :=
    ⟨by dsimp only; omega, by dsimp only; omega, le_refl _,
      (show 1 ≤ 28 by decide).trans (le_monthLength _ _)⟩
  constructor
  · intro h
    have hyear : yearBounds.1 ≤ k / 12 ∧ k / 12 ≤ yearBounds.2 := by
      by_contra hout
      have hnone : Date.ofCivil? (k / 12) ((k % 12).toNat + 1) 1 = none := by
        unfold Date.ofCivil?
        rw [if_neg (by simp; omega)]
      rw [h] at hnone
      cases hnone
    refine ⟨hyear, ?_⟩
    rw [hvalid.ofCivil?_eq hyear.1 hyear.2] at h
    exact congrArg Date.number (Option.some.inj h).symm
  · rintro ⟨hyear, hnumber⟩
    rw [hvalid.ofCivil?_eq hyear.1 hyear.2]
    exact congrArg some (congrArg Date.mk hnumber.symm)

/-- A date that is rolled lies as many days after the first one of its month as are asked for. -/
theorem rolledDate?_eq_some_iff :
    rolledDate? year month day = some d ↔
      (Fits (year * 12) ∧ Fits (year * 12 + month) ∧ Fits (year * 12 + month - 1) ∧
        Fits (day - 1)) ∧
      (yearBounds.1 ≤ (year * 12 + month - 1) / 12 ∧
        (year * 12 + month - 1) / 12 ≤ yearBounds.2) ∧
      d.inBounds = true ∧ firstDay (year * 12 + month - 1) + day - 1 = d.number := by
  unfold rolledDate?
  simp only [Option.bind_eq_bind, Option.bind_eq_some_iff, fits64?_eq_some_iff,
    Date.addDays?_eq_some_iff]
  constructor
  · rintro ⟨_, ⟨hyears, rfl⟩, _, ⟨hsum, rfl⟩, _, ⟨hmonths, rfl⟩, first, hfirst, _, ⟨hday, rfl⟩,
      hin, hnumber⟩
    obtain ⟨hyear, hfirst⟩ := ofCivil?_first_eq_some_iff.1 hfirst
    exact ⟨⟨hyears, hsum, hmonths, hday⟩, hyear, hin, by omega⟩
  · rintro ⟨⟨hyears, hsum, hmonths, hday⟩, hyear, hin, hnumber⟩
    exact ⟨_, ⟨hyears, rfl⟩, _, ⟨hsum, rfl⟩, _, ⟨hmonths, rfl⟩, ⟨firstDay (year * 12 + month - 1)⟩,
      ofCivil?_first_eq_some_iff.2 ⟨hyear, rfl⟩, _, ⟨hday, rfl⟩, hin, by dsimp only; omega⟩

/-- Twelve months more are a year more. -/
theorem rolledDate?_add_twelve (h : rolledDate? year (month + 12) day = some d)
    (h' : rolledDate? (year + 1) month day = some d') : d = d' := by
  obtain ⟨-, -, -, hnumber⟩ := rolledDate?_eq_some_iff.1 h
  obtain ⟨-, -, -, hnumber'⟩ := rolledDate?_eq_some_iff.1 h'
  have hmonths : year * 12 + (month + 12) - 1 = (year + 1) * 12 + month - 1 := by ring
  rw [hmonths] at hnumber
  cases d
  cases d'
  congr 1
  exact hnumber.symm.trans hnumber'

/-- The days of a month more are a month more. -/
theorem rolledDate?_add_length
    (h : rolledDate? year month (day + lengthOf (year * 12 + month - 1)) = some d)
    (h' : rolledDate? year (month + 1) day = some d') : d = d' := by
  obtain ⟨-, -, -, hnumber⟩ := rolledDate?_eq_some_iff.1 h
  obtain ⟨-, -, -, hnumber'⟩ := rolledDate?_eq_some_iff.1 h'
  have hmonths : year * 12 + (month + 1) - 1 = year * 12 + month - 1 + 1 := by ring
  rw [hmonths, firstDay_succ] at hnumber'
  cases d
  cases d'
  congr 1
  dsimp only at hnumber hnumber'
  omega

/-- A date that exists is made from its year, month and day. -/
theorem Civil.Valid.rolledDate?_eq {c : Civil} (hc : c.Valid) (hlow : yearBounds.1 ≤ c.year)
    (hhigh : c.year ≤ yearBounds.2) :
    rolledDate? c.year c.month c.day = some ⟨c.dayNumber⟩ := by
  have hone := hc.one_le_month
  have htwelve := hc.month_le
  have hday := hc.day_le.trans (monthLength_le _ _)
  have hin : (Date.mk c.dayNumber).inBounds = true := by
    simp [Date.inBounds, hc.civil_dayNumber, hlow, hhigh]
  have hindex : c.year * 12 + c.month - 1 = c.monthIndex := rfl
  refine rolledDate?_eq_some_iff.2 ⟨?_, ?_, hin, ?_⟩
  · unfold Fits wholeBounds
    unfold yearBounds at hlow hhigh
    dsimp only at hlow hhigh ⊢
    omega
  · rw [hindex, hc.year_eq]
    exact ⟨hlow, hhigh⟩
  · rw [hindex]
    exact hc.dayNumber_eq.symm

end Spreadsheet.Calendar
