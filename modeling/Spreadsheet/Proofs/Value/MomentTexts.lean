import Spreadsheet.Proofs.Calendar.MomentTexts
import Spreadsheet.Value.Coercion

/-!
# Moments as texts and back

A value that is a moment has a text, and a function that takes a moment reads it
back.  In the years from 0 to 9999 this gives the moment again at midnight, and
it is refused where the text has a time (`toMoment_asText`).  A text with a time
is not taken for a number either, as a slash follows its first digits
(`readNumber?_slash`).
-/

namespace Spreadsheet.Value

open Spreadsheet.Calendar (Moment Date dated)
open Spreadsheet.Text (isDigit takeWhile_append_of_stop dropWhile_append_of_stop)

/-- Digits with a slash behind them do not begin a number. -/
theorem readNumber?_slash {ds rest : List Char} {c : Char} (hdigits : ∀ d ∈ ds, isDigit d = true)
    (hne : ds ≠ []) (hlast : (ds ++ '/' :: rest).getLast? = some c) (hc : c ≠ '%') :
    readNumber? (String.ofList (ds ++ '/' :: rest)) = none := by
  obtain ⟨front, hfront⟩ := List.getLast?_eq_some_iff.1 hlast
  obtain ⟨d, ds', rfl⟩ := List.exists_cons_of_ne_nil hne
  have hd : isDigit d = true := hdigits d List.mem_cons_self
  have hsign : d ≠ '+' ∧ d ≠ '-' := by
    constructor <;> rintro rfl <;> cases hd
  have hstop : ∀ a ∈ ('/' :: rest).head?, isDigit a = false := by simp; decide
  have hread : Decimal.read? (d :: ds' ++ '/' :: rest) = none := by
    have htake := takeWhile_append_of_stop hdigits hstop
    have hdrop := dropWhile_append_of_stop hdigits hstop
    have htakeSign : Decimal.takeSign (d :: ds' ++ '/' :: rest) =
        (false, d :: ds' ++ '/' :: rest) := by
      unfold Decimal.takeSign
      split
      next heq => exact absurd (List.cons.inj heq).1 hsign.2
      next heq => exact absurd (List.cons.inj heq).1 hsign.1
      next => rfl
    simp only [Decimal.read?, htakeSign, htake, hdrop]
    rfl
  have hplain : readPlain? (d :: ds' ++ '/' :: rest) = none := by
    unfold readPlain?
    rw [List.cons_append, List.dropWhile_cons_of_neg (by simp [hsign])]
    simp only [hd, Bool.true_or, if_true]
    exact hread
  rw [readNumber?, String.toList_ofList, hfront, List.reverse_append]
  simp only [List.reverse_cons, List.reverse_nil, List.nil_append, List.cons_append, readReversed?,
    if_neg hc, Bool.false_and, Bool.false_eq_true, if_false, List.reverse_reverse]
  rw [← hfront, hplain]

/-- The text of a moment in the years from 0 to 9999, with whole seconds, is read back to that moment
at midnight, and it is refused with a time. -/
theorem toMoment_asText {m : Moment} (hlow : 0 ≤ m.date.civil.year)
    (hhigh : m.date.civil.year ≤ 9999) (hnanos : m.nanos = 0) :
    (Value.text (Value.date m).asText).toMoment =
      if m.isMidnight then .ok m else .error (.argument (.noDate m.text)) := by
  cases hmidnight : m.isMidnight with
  | true =>
    simp only [toMoment, raw, asText, Moment.read?_text_midnight hlow hhigh hmidnight,
      Option.some_or, if_true]
  | false =>
    have hdate := Moment.dateDigits hlow hhigh
    have hnumber : readNumber? m.text = none := by
      rw [Moment.text_eq, dated]
      refine readNumber?_slash hdate.monthDigits.digit hdate.monthDigits.ne_nil (c := 'M') ?_
        (by decide)
      rw [← dated, hdate.getLast?_dated, Moment.getLast?_timeText, hmidnight]
      rfl
    simp only [toMoment, raw, asText, Moment.read?_text_eq_none hlow hhigh hmidnight hnanos,
      Moment.trim_text hlow hhigh, hnumber, Option.none_or, Option.bind_none, Bool.false_eq_true,
      if_false]

/-- A leap day is read back, but not with thirteen minutes past midnight. -/
theorem toMoment_asText_leapDay :
    let day : Moment := .midnight ⟨45351⟩
    let late : Moment := ⟨⟨45351⟩, 780, 0⟩
    day.date.civil.year = 2024 ∧ day.text = "2/29/2024" ∧
      (Value.text (Value.date day).asText).toMoment = .ok day ∧
      late.text = "2/29/2024 12:13 AM" ∧
      (Value.text (Value.date late).asText).toMoment =
        .error (.argument (.noDate "2/29/2024 12:13 AM")) := by
  intro day late
  have hyear : day.date.civil.year = 2024 := by decide +kernel
  have hlate : late.text = "2/29/2024 12:13 AM" := by decide +kernel
  have hread := toMoment_asText (m := day) (by rw [hyear]; decide) (by rw [hyear]; decide) rfl
  have hrefused := toMoment_asText (m := late) (hyear ▸ by decide) (hyear ▸ by decide) rfl
  rw [hlate] at hrefused
  exact ⟨hyear, by decide +kernel, hread, hlate, hrefused⟩

/-- At 12:13 AM the text of a moment is refused. -/
theorem toMoment_asText_ne :
    let m : Moment := ⟨⟨45351⟩, 780, 0⟩
    (0 ≤ m.date.civil.year ∧ m.date.civil.year ≤ 9999) ∧ m.seconds < 86400 ∧ m.nanos = 0 ∧
      (Value.text (Value.date m).asText).toMoment ≠ .ok m := by
  decide +kernel

end Spreadsheet.Value
