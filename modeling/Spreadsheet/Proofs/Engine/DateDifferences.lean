import Spreadsheet.Proofs.Calendar.Anniversaries
import Spreadsheet.Proofs.Engine.Trees

/-!
# Differences of dates

`DATEDIF` reads two moments and a unit and gives the length of the period between
their dates (`AtRest.tryEvaluate_dateDif`).  Its whole months and the days left
over lead from one date to the other, and the months are those of the whole
years and the rest (`Reached.dateDif_recomposes`).
-/

namespace Spreadsheet.Engine

open Spreadsheet.Calendar (Date MissesLeapDay periodLength? wholeMonths daysInMonth daysInYear
  addMonths?_wholeMonths addYears?_daysInYear)
open Spreadsheet.Evaluation
open Spreadsheet.Evaluation.Program
open Spreadsheet.Formula (Expr Function)
open Spreadsheet.Grid (Workbook)

/-- A tree is a call of `DATEDIF` with two moments and a unit. -/
def IsDateDif (e : Engine) (h : Host) (o : Options) (tree : Expr)
    (start finish : Calendar.Moment) (unit : String) : Prop :=
  ∃ f es ef eu s, tree = .call f [es, ef, eu] ∧ f.body = .builtin .dateDif ∧
    (e.runProgram h (o.sheet.getD h.selected)
      (argumentOf ((e.surroundings h).context o) es).moment).1 = .ok start ∧
    (e.runProgram h (o.sheet.getD h.selected)
      (argumentOf ((e.surroundings h).context o) ef).moment).1 = .ok finish ∧
    (e.runProgram h (o.sheet.getD h.selected)
      (argumentOf ((e.surroundings h).context o) eu).text).1 = .ok s ∧
    Text.upper (Text.trim s) = unit

/-- Every call of `DATEDIF` with these moments and this unit gives a whole number. -/
def GivesDateDif (e : Engine) (h : Host) (o : Options) (start finish : Calendar.Moment)
    (unit : String) (n : Int) : Prop :=
  ∀ text tree, treesOf e.registry text tree → e.IsDateDif h o tree start finish unit →
    (e.tryEvaluate h text o).1 = .ok (.number (Float.ofInt n))

variable {e : Engine} {h : Host} {o : Options} {start finish : Calendar.Moment}

/-- `DATEDIF` gives the length of the period between two dates in order. -/
theorem AtRest.tryEvaluate_dateDif (he : e.AtRest) (hh : h.KnowsNoNames) (ho : o.format = none)
    (hle : start.date.number ≤ finish.date.number) {unit : String} {n : Int}
    (hn : periodLength? start.date finish.date unit = some n) :
    e.GivesDateDif h o start finish unit n := by
  rintro text tree htext ⟨f, es, ef, eu, s, rfl, hf, hs, hfinish, hunit, rfl⟩
  rw [he.runProgram hh] at hs hfinish hunit
  rw [he.tryEvaluate_of_call hh hf htext ho]
  simp only [argumentsOf, applyBuiltin, Functions.dateDif, Functions.momentAt, textAt, argument,
    List.getElem?_cons_zero, List.getElem?_cons_succ, bind_eq, done_bind, pure_eq]
  rw [under_bind_of_ok hs, under_bind_of_ok hfinish, under_bind_of_ok hunit, if_neg hle.not_gt, hn]
  rfl

/-- The whole months between two dates and the days left over lead from one to the other.  There are
30 such days at most, and the months are the whole years and up to 11 months more. -/
theorem Reached.dateDif_recomposes {settings : Settings} {fs : List Function}
    (he : Reached settings fs e) (hh : h.KnowsNoNames) (ho : o.format = none)
    (hstart : start.date.inBounds = true) (hfinish : finish.date.inBounds = true)
    (hle : start.date.number ≤ finish.date.number) :
    ∃ years months monthsOfYear days : Int,
      e.GivesDateDif h o start finish "Y" years ∧
      e.GivesDateDif h o start finish "M" months ∧
      e.GivesDateDif h o start finish "YM" monthsOfYear ∧
      e.GivesDateDif h o start finish "MD" days ∧
      (∃ moved, start.date.addMonths? months = some moved ∧
        moved.addDays? days = some finish.date) ∧
      (0 ≤ days ∧ days ≤ 30) ∧
      months = 12 * years + monthsOfYear ∧ 0 ≤ months ∧ 0 ≤ monthsOfYear ∧ monthsOfYear ≤ 11 := by
  obtain ⟨hmonths, hlow, hhigh, hmoved⟩ := addMonths?_wholeMonths hstart hfinish hle
  have hgives {unit : String} {n : Int} (hn : periodLength? start.date finish.date unit = some n) :
      e.GivesDateDif h o start finish unit n :=
    he.atRest.1.tryEvaluate_dateDif hh ho hle hn
  refine ⟨wholeMonths start.date finish.date / 12, wholeMonths start.date finish.date,
    wholeMonths start.date finish.date % 12, daysInMonth start.date finish.date, hgives rfl,
    hgives rfl, hgives rfl, hgives rfl, hmoved, ⟨hlow, hhigh⟩, ?_, hmonths, ?_, ?_⟩ <;> omega

/-- The last day of January and the first one of March, in a year without a leap day. -/
def winter : Workbook where
  sheets := [
    { name := "a"
      cells := [
        ((0, 0), { content := .date (.midnight ⟨44227⟩) }),
        ((0, 1), { content := .date (.midnight ⟨44256⟩) })] }]

/-- From 31 January to 1 March it is one month, which ends on 28 February, and one day. -/
theorem Reached.dateDif_recomposes_winter :
    let e := Engine.new {}
    let start : Date := ⟨44227⟩
    let finish : Date := ⟨44256⟩
    let result (text : String) := (e.tryEvaluate winter.host text {}).1
    Reached {} [] e ∧ start.inBounds = true ∧ finish.inBounds = true ∧
      start.number ≤ finish.number ∧
      (∃ months days moved,
        result "=DATEDIF(A1,B1,\"M\")" = .ok (.number (Float.ofInt months)) ∧
        result "=DATEDIF(A1,B1,\"md\")" = .ok (.number (Float.ofInt days)) ∧
        start.addMonths? months = some moved ∧ moved.addDays? days = some finish) ∧
      result "=DATEDIF(A1,B1,\"M\")" = .ok (.number 1.0) ∧
      result "=DATEDIF(A1,B1,\"md\")" = .ok (.number 1.0) := by
  intro e start finish result
  have he : Reached {} [] e := .new
  have hstart : start.inBounds = true := by decide +kernel
  have hfinish : finish.inBounds = true := by decide +kernel
  have hle : start.number ≤ finish.number := by decide
  obtain ⟨-, months, -, days, -, hm, -, hd, ⟨moved, hmoved, hadd⟩, -⟩ :=
    @Reached.dateDif_recomposes e winter.host {} (.midnight start) (.midnight finish) {} [] he
      winter.host_knowsNoNames rfl hstart hfinish hle
  let tree (unit : String) : Expr := .call (Formula.Builtin.function .dateDif)
    [.reference ⟨{ top := 0, left := 0, bottom := 0, right := 0 }, none⟩,
      .reference ⟨{ top := 0, left := 1, bottom := 0, right := 1 }, none⟩, .literal (.text unit)]
  have htext : treesOf e.registry "=DATEDIF(A1,B1,\"M\")" (tree "M") :=
    ⟨"DATEDIF(A1,B1,\"M\")", by decide +kernel, rfl⟩
  have htext' : treesOf e.registry "=DATEDIF(A1,B1,\"md\")" (tree "md") :=
    ⟨"DATEDIF(A1,B1,\"md\")", by decide +kernel, rfl⟩
  refine ⟨he, hstart, hfinish, hle, ⟨months, days, moved, hm _ _ htext ?_, hd _ _ htext' ?_, hmoved,
    hadd⟩, by decide +kernel, by decide +kernel⟩
  · exact ⟨_, _, _, _, "M", rfl, rfl, rfl, rfl, rfl, by decide +kernel⟩
  · exact ⟨_, _, _, _, "md", rfl, rfl, rfl, rfl, rfl, by decide +kernel⟩

/-- The whole years between two dates and the days left over lead from one to the other, unless the
first is a leap day and the other the last day of February in a year without one. -/
theorem Reached.dateDif_recomposes_years {settings : Settings} {fs : List Function}
    (he : Reached settings fs e) (hh : h.KnowsNoNames) (ho : o.format = none)
    (hstart : start.date.inBounds = true) (hfinish : finish.date.inBounds = true)
    (hle : start.date.number ≤ finish.date.number) :
    ∃ years days : Int,
      e.GivesDateDif h o start finish "Y" years ∧
      e.GivesDateDif h o start finish "YD" days ∧
      0 ≤ years ∧ 0 ≤ days ∧
      ((∃ moved, start.date.addYears? years = some moved ∧
        moved.addDays? days = some finish.date) ↔ ¬ MissesLeapDay start.date finish.date) := by
  have hgives {unit : String} {n : Int} (hn : periodLength? start.date finish.date unit = some n) :
      e.GivesDateDif h o start finish unit n :=
    he.atRest.1.tryEvaluate_dateDif hh ho hle hn
  exact ⟨wholeMonths start.date finish.date / 12, daysInYear start.date finish.date, hgives rfl,
    hgives rfl, addYears?_daysInYear hstart hfinish hle⟩

/-- A leap day, with the last day of the next February and the first day of March two years
later. -/
def leapDay : Workbook where
  sheets := [
    { name := "a"
      cells := [
        ((0, 0), { content := .date (.midnight ⟨43890⟩) }),
        ((0, 1), { content := .date (.midnight ⟨44255⟩) }),
        ((0, 2), { content := .date (.midnight ⟨44986⟩) })] }]

/-- From 29 February 2020 to 1 March 2023 it is three years, which end on 28 February, and one
day. -/
theorem Reached.dateDif_recomposes_years_leapDay :
    let e := Engine.new {}
    let start : Date := ⟨43890⟩
    let finish : Date := ⟨44986⟩
    let result (text : String) := (e.tryEvaluate leapDay.host text {}).1
    Reached {} [] e ∧ start.inBounds = true ∧ finish.inBounds = true ∧
      start.number ≤ finish.number ∧ ¬ MissesLeapDay start finish ∧
      (∃ years days moved,
        result "=DATEDIF(A1,C1,\"y\")" = .ok (.number (Float.ofInt years)) ∧
        result "=DATEDIF(A1,C1,\"YD\")" = .ok (.number (Float.ofInt days)) ∧
        start.addYears? years = some moved ∧ moved.addDays? days = some finish) ∧
      result "=DATEDIF(A1,C1,\"y\")" = .ok (.number 3.0) ∧
      result "=DATEDIF(A1,C1,\"YD\")" = .ok (.number 1.0) := by
  intro e start finish result
  have he : Reached {} [] e := .new
  have hstart : start.inBounds = true := by decide +kernel
  have hfinish : finish.inBounds = true := by decide +kernel
  have hle : start.number ≤ finish.number := by decide
  have hleap : ¬ MissesLeapDay start finish := fun hmiss =>
    absurd hmiss.finish_month (by decide +kernel)
  obtain ⟨years, days, hy, hd, -, -, hmoves⟩ :=
    @Reached.dateDif_recomposes_years e leapDay.host {} (.midnight start) (.midnight finish) {} [] he
      leapDay.host_knowsNoNames rfl hstart hfinish hle
  obtain ⟨moved, hmoved, hadd⟩ := hmoves.2 hleap
  let tree (unit : String) : Expr := .call (Formula.Builtin.function .dateDif)
    [.reference ⟨{ top := 0, left := 0, bottom := 0, right := 0 }, none⟩,
      .reference ⟨{ top := 0, left := 2, bottom := 0, right := 2 }, none⟩, .literal (.text unit)]
  have htext : treesOf e.registry "=DATEDIF(A1,C1,\"y\")" (tree "y") :=
    ⟨"DATEDIF(A1,C1,\"y\")", by decide +kernel, rfl⟩
  have htext' : treesOf e.registry "=DATEDIF(A1,C1,\"YD\")" (tree "YD") :=
    ⟨"DATEDIF(A1,C1,\"YD\")", by decide +kernel, rfl⟩
  refine ⟨he, hstart, hfinish, hle, hleap, ⟨years, days, moved, hy _ _ htext ?_, hd _ _ htext' ?_,
    hmoved, hadd⟩, by decide +kernel, by decide +kernel⟩
  · exact ⟨_, _, _, _, "y", rfl, rfl, rfl, rfl, rfl, by decide +kernel⟩
  · exact ⟨_, _, _, _, "YD", rfl, rfl, rfl, rfl, rfl, by decide +kernel⟩

/-- From 29 February 2020 to 28 February 2021 no year has passed and no days are left over, so the
two do not lead from one date to the other. -/
theorem dateDif_missing_leapDay :
    let start : Date := ⟨43890⟩
    let finish : Date := ⟨44255⟩
    let result (text : String) := ((Engine.new {}).tryEvaluate leapDay.host text {}).1
    start.inBounds = true ∧ finish.inBounds = true ∧ start.number ≤ finish.number ∧
      result "=DATEDIF(A1,B1,\"Y\")" = .ok (.number (Float.ofInt 0)) ∧
      result "=DATEDIF(A1,B1,\"YD\")" = .ok (.number (Float.ofInt 0)) ∧
      ¬ ∃ moved, start.addYears? 0 = some moved ∧ moved.addDays? 0 = some finish := by
  have hmoved : ((Date.mk 43890).addYears? 0).bind (·.addDays? 0) ≠ some ⟨44255⟩ := by
    decide +kernel
  refine ⟨by decide +kernel, by decide +kernel, by decide, by decide +kernel, by decide +kernel, ?_⟩
  rintro ⟨moved, hyears, hdays⟩
  exact hmoved (by rw [hyears]; exact hdays)

end Spreadsheet.Engine
