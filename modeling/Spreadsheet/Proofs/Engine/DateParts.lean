import Spreadsheet.Proofs.Calendar.RolledDates
import Spreadsheet.Proofs.Engine.Expressions

/-!
# Dates and their parts

`DATE` reads three whole numbers and gives the date that they roll to
(`AtRest.evaluates_dateOf`).  `YEAR`, `MONTH` and `DAY` take a date apart again, and
twelve months more, or the days of a month more, are a year or a month more
(`Reached.dateOf_recomposes`).

A number that 64 bits do not reach is taken for the last one that they do.  No two
numbers so large are as near to each other as a month and the next one
(`toSigned64_of_near`), and no date has so large a year, so neither law sees it.
-/

namespace Spreadsheet.Engine

open Spreadsheet.Calendar
open Spreadsheet.Decimal (toSigned64 toSigned64_eq toSigned64_of_near toSigned64_of_small
  whole? wholeBounds)
open Spreadsheet.Evaluation
open Spreadsheet.Evaluation.Program
open Spreadsheet.Formula (Builtin Error Expr Function)
open Spreadsheet.Grid (Workbook)

/-- A tree is a call of `DATE` with numbers that have these whole parts. -/
def IsDateOf (e : Engine) (h : Host) (o : Options) (tree : Expr) (year month day : Int) : Prop :=
  ∃ f ey em ed, tree = .call f [ey, em, ed] ∧ f.body = .builtin .dateOf ∧
    e.IsWhole h o ey year ∧ e.IsWhole h o em month ∧ e.IsWhole h o ed day

/-- Formulas with two trees give the same value wherever both give one. -/
def SameValues (e : Engine) (h : Host) (o : Options) (tree tree' : Expr) : Prop :=
  ∀ text text' v v', treesOf e.registry text tree → treesOf e.registry text' tree' →
    (e.tryEvaluate h text o).1 = .ok v → (e.tryEvaluate h text' o).1 = .ok v' → v = v'

/-- The date that numbers roll to, as a value, or the error that there is none. -/
def rolledValue (year month day : Int) : Except Error Value :=
  match rolledDate? (fullYear year) month day with
  | some d => .ok (.date (.midnight d))
  | none => .error (.argument (.badDate (fullYear year) month day))

variable {e : Engine} {h : Host} {o : Options} {tree tree' : Expr} {year month day : Int}

/-- From 1900 on, a value of `DATE` is a date that its numbers roll to. -/
theorem rolledValue_eq_ok_iff {v : Value} (hyear : 1900 ≤ year) :
    rolledValue year month day = .ok v ↔
      ∃ d, rolledDate? year month day = some d ∧ .date (.midnight d) = v := by
  have hfull : fullYear year = year := by
    unfold fullYear
    rw [if_neg (by simp; omega)]
  unfold rolledValue
  rw [hfull]
  cases rolledDate? year month day with
  | some d => simp
  | none => simp

example : rolledValue 2023 14 31 = rolledValue 2024 3 2 := by decide +kernel

/-- A part of a date is taken from the date that the argument is computed to. -/
theorem part_under {q : Answers} {p : Program Value} {m : Calendar.Moment}
    (hp : p.under q = .ok (.date m)) (g : Calendar.Moment → Int) :
    (Functions.part g [.computed p]).under q = .ok (.number (Float.ofInt (g m))) := by
  have hmoment : (Argument.computed p).moment.under q = .ok m := by
    simp only [Argument.moment, Argument.value, Argument.operand, bind_eq, bind_assoc, pure_eq,
      done_bind]
    rw [under_bind_of_ok hp]
    rfl
  simp only [Functions.part, Functions.momentAt, argument, List.getElem?_cons_zero, bind_eq,
    done_bind, pure_eq]
  rw [under_bind_of_ok hmoment, under_done]

namespace AtRest

variable (he : e.AtRest) (hh : h.KnowsNoNames)
include he hh

/-- `DATE` computes the date that its numbers roll to. -/
theorem dateOf_under (hdate : e.IsDateOf h o tree year month day) :
    ∃ f es x y z, tree = .call f es ∧ f.body = .builtin .dateOf ∧
      whole? x = some year ∧ whole? y = some month ∧ whole? z = some day ∧
      (Functions.dateOf (argumentsOf ((e.surroundings h).context o) es)).under
        (answers e.registry h (o.sheet.getD h.selected)) =
          rolledValue (toSigned64 x) (toSigned64 y) (toSigned64 z) := by
  obtain ⟨f, ey, em, ed, rfl, hf, hyear, hmonth, hday⟩ := hdate
  obtain ⟨x, hx, hxwhole⟩ := (he.isWhole_iff hh).1 hyear
  obtain ⟨y, hy, hywhole⟩ := (he.isWhole_iff hh).1 hmonth
  obtain ⟨z, hz, hzwhole⟩ := (he.isWhole_iff hh).1 hday
  refine ⟨f, _, x, y, z, rfl, hf, hxwhole, hywhole, hzwhole, ?_⟩
  simp only [argumentsOf, Functions.dateOf, Functions.wholeAt, numberAt, argument,
    List.getElem?_cons_zero, List.getElem?_cons_succ, bind_eq, done_bind, pure_eq, bind_assoc]
  rw [under_bind_of_ok hx, under_bind_of_ok hy, under_bind_of_ok hz, rolledValue]
  cases rolledDate? (fullYear (toSigned64 x)) (toSigned64 y) (toSigned64 z) with
  | some d => rfl
  | none => rfl

/-- A formula that is a call of `DATE` gives the date that its numbers roll to. -/
theorem evaluates_dateOf (ho : o.format = none) (hdate : e.IsDateOf h o tree year month day) :
    ∃ x y z, whole? x = some year ∧ whole? y = some month ∧ whole? z = some day ∧
      e.Evaluates h o tree (rolledValue (toSigned64 x) (toSigned64 y) (toSigned64 z)) := by
  obtain ⟨f, es, x, y, z, rfl, hf, hx, hy, hz, hcall⟩ := he.dateOf_under hh hdate
  refine ⟨x, y, z, hx, hy, hz, ?_⟩
  have hsettled (k l m : Int) (q : Answers) :
      rolledValue k l m >>= settledValue q = rolledValue k l m := by
    unfold rolledValue
    split <;> rfl
  rw [← hsettled]
  exact he.evaluates_call hh hf ho hcall

/-- For the year, month and day of a date that exists, `DATE` computes that date. -/
theorem dateOf_civil {c : Civil} (hc : c.Valid) (hlow : 1900 ≤ c.year)
    (hhigh : c.year ≤ yearBounds.2) (hdate : e.IsDateOf h o tree c.year c.month c.day) :
    ∃ f es, tree = .call f es ∧ f.body = .builtin .dateOf ∧
      (Functions.dateOf (argumentsOf ((e.surroundings h).context o) es)).under
        (answers e.registry h (o.sheet.getD h.selected)) =
          .ok (.date (.midnight ⟨c.dayNumber⟩)) := by
  obtain ⟨f, es, x, y, z, htree, hf, hx, hy, hz, hcall⟩ := he.dateOf_under hh hdate
  have hmonth := hc.month_le
  have hday := hc.day_le.trans (monthLength_le _ _)
  have hlowest : yearBounds.1 ≤ c.year := (show yearBounds.1 ≤ 1900 by decide).trans hlow
  have hgreatest : c.year ≤ 262142 := hhigh
  refine ⟨f, es, htree, hf, ?_⟩
  rw [hcall, toSigned64_of_small hx (by omega), toSigned64_of_small hy (by omega),
    toSigned64_of_small hz (by omega)]
  exact (rolledValue_eq_ok_iff hlow).2 ⟨_, hc.rolledDate?_eq hlowest hhigh, rfl⟩

/-- A part of a call of `DATE` is that part of the date that exists. -/
theorem evaluates_part (ho : o.format = none) {c : Civil} (hc : c.Valid) (hlow : 1900 ≤ c.year)
    (hhigh : c.year ≤ yearBounds.2) (hdate : e.IsDateOf h o tree c.year c.month c.day)
    {f : Function} {b : Builtin} (hf : f.body = .builtin b) (g : Civil → Int)
    (hb : ∀ context args, applyBuiltin context args b =
      Functions.part (fun m => g m.date.civil) args) :
    e.Evaluates h o (.call f [tree]) (.ok (.number (Float.ofInt (g c)))) := by
  obtain ⟨fd, es, rfl, hfd, hcall⟩ := he.dateOf_civil hh hc hlow hhigh hdate
  refine he.evaluates_call hh hf ho (x := .ok (.number (Float.ofInt (g c)))) ?_
  rw [hb, argumentsOf, argumentsOf, argumentOf_call hfd]
  refine (part_under hcall _).trans ?_
  dsimp only [Calendar.Moment.midnight]
  rw [hc.civil_dayNumber]

/-- `DATE` gives one value for twelve months more and for a year more. -/
theorem sameValues_add_twelve (ho : o.format = none) (hyear : 1900 ≤ year)
    (hdate : e.IsDateOf h o tree year (month + 12) day)
    (hdate' : e.IsDateOf h o tree' (year + 1) month day) : e.SameValues h o tree tree' := by
  intro text text' v v' htext htext' hv hv'
  obtain ⟨x, y, z, hx, hy, hz, heval⟩ := he.evaluates_dateOf hh ho hdate
  obtain ⟨x', y', z', hx', hy', hz', heval'⟩ := he.evaluates_dateOf hh ho hdate'
  obtain ⟨hxs, hxs'⟩ := toSigned64_of_near hx hx' (by decide) (by decide)
  obtain ⟨hys', hys⟩ := toSigned64_of_near hy' hy (by decide) (by decide)
  have hzs : toSigned64 z = toSigned64 z' := (toSigned64_eq hz).trans (toSigned64_eq hz').symm
  rw [heval text htext, hxs, hys, hzs, rolledValue_eq_ok_iff hyear] at hv
  rw [heval' text' htext', hxs', hys', rolledValue_eq_ok_iff (by omega)] at hv'
  obtain ⟨d, hd, rfl⟩ := hv
  obtain ⟨d', hd', rfl⟩ := hv'
  rw [rolledDate?_add_twelve hd hd']

/-- `DATE` gives one value for the days of a month more and for a month more. -/
theorem sameValues_add_length (ho : o.format = none) (hyear : 1900 ≤ year)
    (hdate : e.IsDateOf h o tree year month (day + lengthOf (year * 12 + month - 1)))
    (hdate' : e.IsDateOf h o tree' year (month + 1) day) : e.SameValues h o tree tree' := by
  intro text text' v v' htext htext' hv hv'
  obtain ⟨x, y, z, hx, hy, hz, heval⟩ := he.evaluates_dateOf hh ho hdate
  obtain ⟨x', y', z', hx', hy', hz', heval'⟩ := he.evaluates_dateOf hh ho hdate'
  obtain ⟨hys, hys'⟩ := toSigned64_of_near hy hy' (by decide) (by decide)
  have hshortest : 28 ≤ lengthOf (year * 12 + month - 1) := le_monthLength _ _
  have hlongest : lengthOf (year * 12 + month - 1) ≤ 31 := monthLength_le _ _
  obtain ⟨hzs', hzs⟩ := toSigned64_of_near hz' hz (by omega) (by omega)
  have hxs : toSigned64 x = toSigned64 x' := (toSigned64_eq hx).trans (toSigned64_eq hx').symm
  have hclamped : 1900 ≤ toSigned64 x' := by
    rw [toSigned64_eq hx']
    unfold wholeBounds
    omega
  rw [heval text htext, hxs, hys, hzs, rolledValue_eq_ok_iff hclamped] at hv
  rw [heval' text' htext', hys', hzs', rolledValue_eq_ok_iff hclamped] at hv'
  obtain ⟨d, hd, rfl⟩ := hv
  obtain ⟨d', hd', rfl⟩ := hv'
  -- the last year of 64 bits has too many months for a date, so this one is not taken for it
  have hexact : toSigned64 x' = year := by
    obtain ⟨⟨⟨-, hfits⟩, -⟩, -⟩ := rolledDate?_eq_some_iff.1 hd'
    rw [toSigned64_eq hx'] at hfits ⊢
    unfold wholeBounds at hfits ⊢
    dsimp only at hfits ⊢
    omega
  rw [hexact] at hd hd'
  rw [rolledDate?_add_length hd hd']

end AtRest

/-- `DATE` joins what `YEAR`, `MONTH` and `DAY` take apart.  In its arguments, twelve months are a
year, and the days of a month are a month. -/
theorem Reached.dateOf_recomposes {settings : Settings} {fs : List Function}
    (he : Reached settings fs e) (hh : h.KnowsNoNames) (ho : o.format = none) :
    (∀ (c : Civil) (tree : Expr), c.Valid → 1900 ≤ c.year → c.year ≤ yearBounds.2 →
      e.IsDateOf h o tree c.year c.month c.day →
        e.Evaluates h o tree (.ok (.date (.midnight ⟨c.dayNumber⟩))) ∧
        ∀ f : Function,
          (f.body = .builtin .year →
            e.Evaluates h o (.call f [tree]) (.ok (.number (Float.ofInt c.year)))) ∧
          (f.body = .builtin .month →
            e.Evaluates h o (.call f [tree]) (.ok (.number (Float.ofInt c.month)))) ∧
          (f.body = .builtin .day →
            e.Evaluates h o (.call f [tree]) (.ok (.number (Float.ofInt c.day))))) ∧
    (∀ (tree tree' : Expr) (year month day : Int), 1900 ≤ year →
      e.IsDateOf h o tree year (month + 12) day → e.IsDateOf h o tree' (year + 1) month day →
        e.SameValues h o tree tree') ∧
    (∀ (tree tree' : Expr) (year month day : Int), 1900 ≤ year →
      e.IsDateOf h o tree year month (day + lengthOf (year * 12 + month - 1)) →
      e.IsDateOf h o tree' year (month + 1) day → e.SameValues h o tree tree') := by
  have hrest := he.atRest.1
  refine ⟨fun c tree hc hlow hhigh hdate =>
      ⟨?_, fun f => ⟨fun hf => ?_, fun hf => ?_, fun hf => ?_⟩⟩,
    fun tree tree' year month day => hrest.sameValues_add_twelve hh ho,
    fun tree tree' year month day => hrest.sameValues_add_length hh ho⟩
  · obtain ⟨f, es, rfl, hf, hcall⟩ := hrest.dateOf_civil hh hc hlow hhigh hdate
    exact hrest.evaluates_call hh hf ho hcall
  · exact hrest.evaluates_part hh ho hc hlow hhigh hdate hf Civil.year fun _ _ => rfl
  · exact hrest.evaluates_part hh ho hc hlow hhigh hdate hf (fun c => c.month) fun _ _ => rfl
  · exact hrest.evaluates_part hh ho hc hlow hhigh hdate hf (fun c => c.day) fun _ _ => rfl

/-- A workbook with one empty sheet. -/
def blank : Workbook where
  sheets := [{ name := "a", cells := [] }]

/-- A leap day is taken apart, the 14th month of 2023 is the second one of 2024, and its 60th day is
the last day of the third. -/
theorem Reached.dateOf_recomposes_leapDay :
    let e := Engine.new {}
    let date (year month day : Float) : Expr := .call (Formula.Builtin.function .dateOf)
      [.literal (.number year), .literal (.number month), .literal (.number day)]
    let result (text : String) := (e.tryEvaluate blank.host text {}).1
    Reached {} [] e ∧ (Civil.mk 2024 2 29).Valid ∧ lengthOf (2024 * 12 + 2 - 1) = 29 ∧
      e.IsDateOf blank.host {} (date 2024.0 2.0 29.0) 2024 2 29 ∧
      e.Evaluates blank.host {} (.call (Formula.Builtin.function .day) [date 2024.0 2.0 29.0])
        (.ok (.number 29.0)) ∧
      e.SameValues blank.host {} (date 2023.0 14.0 31.0) (date 2024.0 2.0 31.0) ∧
      e.SameValues blank.host {} (date 2024.0 2.0 60.0) (date 2024.0 3.0 31.0) ∧
      result "=DAY(DATE(2024,2,29))" = .ok (.number 29.0) ∧
      result "=DATE(2023,14,31)" = .ok (.date (.midnight ⟨45353⟩)) ∧
      result "=DATE(2024,2,31)" = .ok (.date (.midnight ⟨45353⟩)) ∧
      result "=DATE(2024,2,60)" = .ok (.date (.midnight ⟨45382⟩)) ∧
      result "=DATE(2024,3,31)" = .ok (.date (.midnight ⟨45382⟩)) := by
  intro e date result
  have he : Reached {} [] e := .new
  obtain ⟨hparts, htwelve, hlength⟩ :=
    Reached.dateOf_recomposes he blank.host_knowsNoNames (o := {}) rfl
  have hvalid : (Civil.mk 2024 2 29).Valid := ⟨by decide, by decide, by decide, by decide⟩
  have h2024 : e.IsWhole blank.host {} (.literal (.number 2024.0)) 2024 :=
    ⟨_, rfl, by decide +kernel⟩
  have h2023 : e.IsWhole blank.host {} (.literal (.number 2023.0)) 2023 :=
    ⟨_, rfl, by decide +kernel⟩
  have h14 : e.IsWhole blank.host {} (.literal (.number 14.0)) 14 := ⟨_, rfl, by decide +kernel⟩
  have h2 : e.IsWhole blank.host {} (.literal (.number 2.0)) 2 := ⟨_, rfl, by decide +kernel⟩
  have h3 : e.IsWhole blank.host {} (.literal (.number 3.0)) 3 := ⟨_, rfl, by decide +kernel⟩
  have h29 : e.IsWhole blank.host {} (.literal (.number 29.0)) 29 := ⟨_, rfl, by decide +kernel⟩
  have h31 : e.IsWhole blank.host {} (.literal (.number 31.0)) 31 := ⟨_, rfl, by decide +kernel⟩
  have h60 : e.IsWhole blank.host {} (.literal (.number 60.0)) 60 := ⟨_, rfl, by decide +kernel⟩
  have hleap : e.IsDateOf blank.host {} (date 2024.0 2.0 29.0) 2024 2 29 :=
    ⟨_, _, _, _, rfl, rfl, h2024, h2, h29⟩
  have hday := ((hparts ⟨2024, 2, 29⟩ _ hvalid (by decide) (by decide) hleap).2
    (Formula.Builtin.function .day)).2.2 rfl
  rw [show Float.ofInt ((29 : Nat) : Int) = 29.0 by decide +kernel] at hday
  have hmonths : e.SameValues blank.host {} (date 2023.0 14.0 31.0) (date 2024.0 2.0 31.0) :=
    htwelve _ _ 2023 2 31 (by decide) ⟨_, _, _, _, rfl, rfl, h2023, h14, h31⟩
      ⟨_, _, _, _, rfl, rfl, h2024, h2, h31⟩
  have hdays : e.SameValues blank.host {} (date 2024.0 2.0 60.0) (date 2024.0 3.0 31.0) :=
    hlength _ _ 2024 2 31 (by decide) ⟨_, _, _, _, rfl, rfl, h2024, h2, h60⟩
      ⟨_, _, _, _, rfl, rfl, h2024, h3, h31⟩
  exact ⟨he, hvalid, by decide, hleap, hday, hmonths, hdays, by decide +kernel, by decide +kernel,
    by decide +kernel, by decide +kernel, by decide +kernel⟩

end Spreadsheet.Engine
