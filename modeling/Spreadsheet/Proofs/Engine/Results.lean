import Spreadsheet.Proofs.Engine.Guards

/-!
# Results of an engine

What comes out of an engine can be shown as it is.  References are read before a
result is given, and a format stands around a number or a moment only, so a value
never carries two of them.  All three ways of asking an engine have such results,
also while ranges are held (`Engine.Reached.isResult`).

The formulas without memory have results under answers that are results
(`Proofs.Engine.Guarded`).  It remains to see what a format option adds
(`Value.Displayed`) and that errors and displayed cells are texts.
-/

namespace Spreadsheet

open Spreadsheet.Evaluation
open Spreadsheet.Formula (Error)

/-! ## Displayed values -/

/-- A value that says how it is displayed: a text, or a number or a moment that carries a format. -/
inductive Value.Displayed : Value → Prop where
  /-- A text. -/
  | text (s : String) : Displayed (.text s)
  /-- A number with its format. -/
  | number (x : Float) (format : String) : Displayed (.formatted (.number x) format)
  /-- A moment with its format. -/
  | date (m : Calendar.Moment) (format : String) : Displayed (.formatted (.date m) format)

/-- A result that is not primitive carries a format. -/
theorem Value.displayed_of_isResult {v : Value} (h : v.isResult = true)
    (hprimitive : v.isPrimitive = false) : v.Displayed := by
  cases v with
  | formatted w format =>
    cases w with
    | number x => exact .number x format
    | date m => exact .date m format
    | _ => simp [isResult] at h
  | reference r => simp [isResult] at h
  | _ => simp [isPrimitive] at hprimitive

namespace Engine

/-- A format option turns the primitive results into texts. -/
theorem displayed_formatted {s : Surroundings} {f : String} {v : Value} (h : v.isResult = true) :
    (formatted s (some f) v).Displayed := by
  unfold formatted
  dsimp only
  cases hprimitive : v.isPrimitive with
  | true => exact .text _
  | false => exact Value.displayed_of_isResult h hprimitive

section

variable {s : Surroundings} {answers : Nat → Answers} (hs : s.host.KnowsNoNames)
  (hregistry : s.registry = .standard) (hanswers : ∀ i, (answers i).AreResults)
include hs hregistry hanswers

theorem displayed_outcome {text : String} {o : Options} {v : Value}
    (h : s.outcome answers text o = .ok v) (ho : o.format.isSome = true) : v.Displayed := by
  obtain ⟨f, hf⟩ := Option.isSome_iff_exists.1 ho
  unfold Surroundings.outcome at h
  split at h
  · cases h
    exact .text _
  next body _ =>
    have hwithin := formula_within hs hregistry (s.context o) body
    obtain ⟨w, hx, hw⟩ := Program.bind_eq_ok.1 h
    rw [hf] at hw
    cases hw
    exact displayed_formatted (hwithin.of_under (hanswers _) hx)

end

theorem displayed_orErrorText {x : Except Error Value} (h : ∀ v, x = .ok v → v.Displayed) :
    (orErrorText x).Displayed := by
  cases x with
  | ok v => exact h v rfl
  | error e => exact .text _

theorem isResult_shown {h : Host} {sheet row column : Nat} {display : Bool} {v : Value}
    (hv : v.isResult = true) : (shown h sheet row column display v).isResult = true := by
  unfold shown
  cases display with
  | false => exact hv
  | true => cases h.format? sheet row column <;> rfl

/-! ## Engines -/

/-- Whatever has been computed before and whatever is held, an engine without further functions
gives results, and a format option leaves no result that does not say how it is displayed. -/
theorem Reached.isResult {settings : Settings} {e : Engine} (he : Reached settings [] e)
    (held : List String) {h : Host} (hh : h.KnowsNoNames) :
    (∀ text o v, ((e.holdingAll held).tryEvaluate h text o).1 = .ok v →
        v.isResult = true ∧ (o.format.isSome = true → v.Displayed)) ∧
      (∀ text o, ((e.holdingAll held).evaluate h text o).1.isResult = true ∧
        (o.format.isSome = true → ((e.holdingAll held).evaluate h text o).1.Displayed)) ∧
      ∀ sheet row column display,
        ((e.holdingAll held).cellValue h sheet row column display).1.isResult = true := by
  obtain ⟨hrest, hregistry⟩ := he.atRest
  have hsound : (e.holdingAll held).memory.Sound (treesOf (e.holdingAll held).registry) :=
    hrest.sound
  have hfits := fits_of_knowsNoNames (s := (e.holdingAll held).surroundings h) hh
  have hanswers (i : Nat) : (answersAt ((e.holdingAll held).surroundings h) (keyBound h)
      (e.holdingAll held).memory.held i).AreResults :=
    answersAt_areResults hh hregistry _ _ i
  have htry {text o v} (hv : ((e.holdingAll held).tryEvaluate h text o).1 = .ok v) :
      v.isResult = true ∧ (o.format.isSome = true → v.Displayed) := by
    rw [tryEvaluate_eq_of_sound hfits hsound trivial] at hv
    exact ⟨isResult_outcome hh hregistry hanswers hv, displayed_outcome hh hregistry hanswers hv⟩
  refine ⟨fun text o v => htry, fun text o => ?_, fun sheet row column display => ?_⟩
  · have hresult := @htry text o
    rw [evaluate_eq]
    generalize (e.holdingAll held).tryEvaluate h text o = answer at hresult
    exact ⟨isResult_orErrorText fun v hv => (hresult hv).1,
      fun ho => displayed_orErrorText fun v hv => (hresult hv).2 ho⟩
  · rw [cellValue_eq_of_sound hfits hsound]
    exact isResult_shown (isResult_value hh hregistry hanswers sheet row column)

/-- A rounded number carries the format of its digits, which a format option leaves alone. -/
theorem Reached.isResult_of_rounded :
    let h := Grid.Workbook.new.host
    let e := Engine.new {}
    Reached {} [] e ∧ h.KnowsNoNames ∧
      ((e.holdingAll []).tryEvaluate h "=ROUND(2.5,0)" { format := some "n2" }).1 =
        .ok (.formatted (.number 3.0) "n0") ∧
      (Value.formatted (.number 3.0) "n0").Displayed := by
  intro h e
  have hh : h.KnowsNoNames := Grid.Workbook.host_knowsNoNames _
  have hvalue : ((e.holdingAll []).tryEvaluate h "=ROUND(2.5,0)" { format := some "n2" }).1 =
      .ok (.formatted (.number 3.0) "n0") := by
    decide +kernel
  have hreached : Reached {} [] e := .new
  obtain ⟨htry, -⟩ := hreached.isResult [] hh
  exact ⟨hreached, hh, hvalue, (htry "=ROUND(2.5,0)" { format := some "n2" } _ hvalue).2 rfl⟩

end Engine

end Spreadsheet
