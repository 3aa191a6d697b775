import Spreadsheet.Proofs.Calendar.Serials
import Spreadsheet.Proofs.Value.SortedSearch

/-!
# The extremes of moments

The greatest and the least of a list of moments are found among their serial numbers,
and a serial number is then read as a moment again.  Serial numbers are in the
order of the milliseconds, so that the extreme one belongs to a moment with the most or
the fewest milliseconds (`reduce_serialOf`).  What comes back of that moment is
the moment itself, unless it has a fraction of a millisecond, is in a leap second, or
is out of the range of serial numbers (`extremes_of_dates`).
-/

namespace Spreadsheet.Value

open Spreadsheet.Calendar
open Spreadsheet.Formula (Error)

variable {vs : List Value} {ms : List Moment} {k l : Int}

/-! ## Lists of moments -/

theorem entryNumber?_raw (v : Value) : entryNumber? v.raw = entryNumber? v := by
  unfold entryNumber?
  rw [raw_raw]

section

variable (hvs : vs.map raw = ms.map .date)
include hvs

theorem numbers_of_dates : numbers vs = ms.map Moment.serial := by
  calc
    numbers vs = (vs.map raw).filterMap entryNumber? := by
      rw [List.filterMap_map]
      exact List.filterMap_congr fun v _ => (entryNumber?_raw v).symm
    _ = ms.filterMap (some ∘ Moment.serial) := by
      rw [hvs, List.filterMap_map]
      rfl
    _ = ms.map Moment.serial := congrFun List.filterMap_eq_map ms

theorem exists_date_of_mem {v : Value} (hv : v ∈ vs) : ∃ m ∈ ms, v.raw = .date m := by
  have hmem : v.raw ∈ ms.map .date := hvs ▸ List.mem_map_of_mem hv
  obtain ⟨m, hm, heq⟩ := List.mem_map.1 hmem
  exact ⟨m, hm, heq.symm⟩

theorem allDates_of_dates (hne : ms ≠ []) : allDates vs = true := by
  have hentries : (vs.filter fun v => (entryNumber? v).isSome) = vs := by
    rw [List.filter_eq_self]
    intro v hv
    obtain ⟨m, -, hm⟩ := exists_date_of_mem hvs hv
    rw [← entryNumber?_raw, hm]
    rfl
  have hall : vs.all isDate = true := by
    rw [List.all_eq_true]
    intro v hv
    obtain ⟨m, -, hm⟩ := exists_date_of_mem hvs hv
    rw [isDate, hm]
  have hsome : vs ≠ [] := by
    rintro rfl
    exact hne (List.map_eq_nil_iff.1 hvs.symm)
  simp only [allDates, hentries, hall, Bool.and_true, Bool.not_eq_true', List.isEmpty_eq_false_iff]
  exact hsome

end

/-! ## Extreme serial numbers -/

section

variable (hk : k.natAbs < 2 ^ 53) (hl : l.natAbs < 2 ^ 53)
include hk hl

theorem greater_serialOf : greater (serialOf k) (serialOf l) = serialOf (max k l) := by
  unfold greater
  obtain hle | hlt := le_or_gt k l
  · rw [max_eq_right hle, if_neg (not_serialOf_lt hk hl hle)]
  · rw [max_eq_left hlt.le]
    split
    next => rfl
    next hnot => exact serialOf_eq hl hk hlt.le hnot

theorem lesser_serialOf : lesser (serialOf k) (serialOf l) = serialOf (min k l) := by
  unfold lesser
  obtain hle | hlt := le_or_gt k l
  · rw [min_eq_left hle]
    split
    next => rfl
    next hnot => exact (serialOf_eq hk hl hle hnot).symm
  · rw [min_eq_right hlt.le, if_neg (not_serialOf_lt hl hk hlt.le)]

end

section

variable {f : Float → Float → Float} {pick : Int → Int → Int}
  (hf : ∀ {k l : Int}, k.natAbs < 2 ^ 53 → l.natAbs < 2 ^ 53 →
    f (serialOf k) (serialOf l) = serialOf (pick k l))
  (hpick : ∀ k l, pick k l = k ∨ pick k l = l)
include hf hpick

/-- What picks one of two serial numbers by their milliseconds reduces serial numbers by their
milliseconds. -/
theorem reduce_serialOf {ks : List Int} (hks : ∀ l ∈ k :: ks, l.natAbs < 2 ^ 53) :
    reduce f ((k :: ks).map serialOf) = serialOf (ks.foldl pick k) := by
  obtain ⟨hk, hks⟩ := List.forall_mem_cons.1 hks
  rw [List.map_cons, reduce, List.foldl_map]
  have hrun : ks.foldl (fun x l => f x (serialOf l)) (serialOf k) = serialOf (ks.foldl pick k) ∧
      (ks.foldl pick k).natAbs < 2 ^ 53 := by
    refine List.foldl_rel (r := fun x l => x = serialOf l ∧ l.natAbs < 2 ^ 53) ⟨rfl, hk⟩ ?_
    rintro l hl _ c ⟨rfl, hc⟩
    refine ⟨hf hc (hks l hl), ?_⟩
    obtain heq | heq := hpick c l
    · rwa [heq]
    · rw [heq]
      exact hks l hl
  exact hrun.1

/-- The number that is left of a list of moments belongs to one of them. -/
theorem exists_reduce_eq {R : Int → Int → Prop}
    (hextreme : ∀ k ks, ks.foldl pick k ∈ k :: ks ∧ ∀ l ∈ k :: ks, R l (ks.foldl pick k))
    (hvs : vs.map raw = ms.map .date) (hne : ms ≠ []) (hvalid : ∀ m ∈ ms, m.Valid) :
    ∃ m ∈ ms, reduce f (numbers vs) = m.serial ∧ ∀ m' ∈ ms, R m'.milliseconds m.milliseconds := by
  have hbounded : ∀ l ∈ ms.map Moment.milliseconds, l.natAbs < 2 ^ 53 :=
    List.forall_mem_map.2 fun m hm => (hvalid m hm).milliseconds_lt
  have hserials : numbers vs = (ms.map Moment.milliseconds).map serialOf := by
    rw [numbers_of_dates hvs, List.map_map]
    rfl
  have hmilliseconds : ms.map Moment.milliseconds ≠ [] := mt List.map_eq_nil_iff.1 hne
  obtain ⟨k, ks, hcons⟩ := List.exists_cons_of_ne_nil hmilliseconds
  rw [hcons] at hbounded hserials
  obtain ⟨hmem, hall⟩ := hextreme k ks
  rw [← hcons] at hmem hall
  obtain ⟨m, hm, heq⟩ := List.mem_map.1 hmem
  rw [← heq] at hall
  refine ⟨m, hm, ?_, List.forall_mem_map.1 hall⟩
  rw [hserials, reduce_serialOf hf hpick hbounded, ← heq]
  rfl

end

/-! ## Extreme moments -/

/-- A result stands for a moment: it is the moment with these milliseconds where a serial number leads
back to one, and the serial number where it does not. -/
structure StandsFor (result : Except Error Value) (m : Moment) : Prop where
  /-- Up to the limit it is a moment. -/
  date : m.milliseconds.natAbs ≤ serialLimit → result = .ok (.date (.ofMilliseconds m.milliseconds))
  /-- That moment is the first one if there are no fractions and leap seconds. -/
  same : m.milliseconds.natAbs ≤ serialLimit → m.OnMillisecond → result = .ok (.date m)
  /-- Beyond the limit it is a number. -/
  number : serialLimit < m.milliseconds.natAbs → result = .ok (.number m.serial)

theorem standsFor_serial {m : Moment} (hm : m.Valid) :
    StandsFor (.ok (momentOrNumber true m.serial)) m := by
  have hback : momentOrNumber true m.serial = if m.milliseconds.natAbs ≤ serialLimit then
      .date (.ofMilliseconds m.milliseconds) else .number m.serial := by
    change momentOrNumber true (serialOf m.milliseconds) = _
    rw [momentOrNumber, ofSerial?_serialOf hm.milliseconds_lt]
    by_cases hle : m.milliseconds.natAbs ≤ serialLimit
    · rw [if_pos hle, if_pos hle]
      rfl
    · rw [if_neg hle, if_neg hle]
      rfl
  constructor
  · intro hle
    rw [hback, if_pos hle]
  · intro hle hwhole
    rw [hback, if_pos hle, hwhole.ofMilliseconds_eq hm.seconds_lt]
  · intro hlt
    rw [hback, if_neg (not_le.2 hlt)]

/-- The greatest of a list of moments stands for one that has the most milliseconds, so that none is
later among those that come back as they are.  The least one stands for one that has the fewest. -/
theorem extremes_of_dates (hvs : vs.map raw = ms.map .date) (hne : ms ≠ [])
    (hvalid : ∀ m ∈ ms, m.Valid) :
    (∃ m ∈ ms, StandsFor (Aggregate.max.apply vs) m ∧
      ∀ m' ∈ ms, m'.milliseconds ≤ m.milliseconds ∧
        (m.OnMillisecond → m'.OnMillisecond → ¬ m.Before m')) ∧
    (∃ m ∈ ms, StandsFor (Aggregate.min.apply vs) m ∧
      ∀ m' ∈ ms, m.milliseconds ≤ m'.milliseconds ∧
        (m.OnMillisecond → m'.OnMillisecond → ¬ m'.Before m)) := by
  have hstands {m : Moment} (hm : m ∈ ms) {x : Float} (hx : x = m.serial) :
      StandsFor (.ok (momentOrNumber (allDates vs) x)) m := by
    rw [allDates_of_dates hvs hne, hx]
    exact standsFor_serial (hvalid m hm)
  constructor
  · obtain ⟨m, hm, hserial, hmax⟩ := exists_reduce_eq (fun hk hl => greater_serialOf hk hl) max_choice
      (fun k ks => List.max?_eq_some_iff.1 (show (k :: ks).max? = _ from List.max?_cons'))
      hvs hne hvalid
    refine ⟨m, hm, hstands hm hserial, fun m' hm' => ⟨hmax m' hm', fun hwhole hwhole' => ?_⟩⟩
    exact Moment.not_before_of_le hwhole hwhole' (hvalid m hm) (hvalid m' hm') (hmax m' hm')
  · obtain ⟨m, hm, hserial, hmin⟩ := exists_reduce_eq (R := fun l k => k ≤ l)
      (fun hk hl => lesser_serialOf hk hl) min_choice
      (fun k ks => List.min?_eq_some_iff.1 (show (k :: ks).min? = _ from List.min?_cons'))
      hvs hne hvalid
    refine ⟨m, hm, hstands hm hserial, fun m' hm' => ⟨hmin m' hm', fun hwhole hwhole' => ?_⟩⟩
    exact Moment.not_before_of_le hwhole' hwhole (hvalid m' hm') (hvalid m hm) (hmin m' hm')

/-- Two of the moments are on the same day, one half a second after the other.  They come back as they
are. -/
theorem extremes_of_dates_halfSecond :
    let first : Moment := ⟨⟨43831⟩, 0, 0⟩
    let second : Moment := ⟨⟨43835⟩, 3600, 0⟩
    let third : Moment := ⟨⟨43835⟩, 3600, 500000000⟩
    let vs : List Value := [.date second, .formatted (.date first) "yyyy", .date third]
    Aggregate.max.apply vs = .ok (.date third) ∧ Aggregate.min.apply vs = .ok (.date first) := by
  intro first second third vs
  have hvalid : ∀ m ∈ [second, first, third], m.Valid := by
    rw [List.forall_mem_cons, List.forall_mem_cons, List.forall_mem_singleton]
    exact ⟨⟨by decide, by decide, by decide⟩, ⟨by decide, by decide, by decide⟩,
      ⟨by decide, by decide, by decide⟩⟩
  have hvs : vs.map raw = [second, first, third].map .date := rfl
  obtain ⟨⟨m, hm, hmax, hlast⟩, m', hm', hmin, hfirst⟩ :=
    extremes_of_dates hvs (List.cons_ne_nil _ _) hvalid
  have hthird : m = third := by
    have hle := (hlast third (by decide)).1
    obtain rfl | rfl | rfl := by simpa using hm
    · exact absurd hle (by decide)
    · exact absurd hle (by decide)
    · rfl
  have hfirst : m' = first := by
    have hle := (hfirst first (by decide)).1
    obtain rfl | rfl | rfl := by simpa using hm'
    · exact absurd hle (by decide)
    · rfl
    · exact absurd hle (by decide)
  subst hthird hfirst
  exact ⟨hmax.same (by decide) ⟨by decide, by decide⟩, hmin.same (by decide) ⟨by decide, by decide⟩⟩

/-- The beginning of the year 10000 comes back as a number.  A fraction of a millisecond is dropped,
and a leap second becomes the beginning of the next day. -/
theorem extremes_ne_dates :
    let far : Moment := ⟨⟨2958466⟩, 0, 0⟩
    let fraction : Moment := ⟨⟨43831⟩, 0, 500000⟩
    let leap : Moment := ⟨⟨42735⟩, 86399, 1000000000⟩
    (far.Valid ∧ fraction.Valid ∧ leap.Valid) ∧
      (Aggregate.max.apply [.date far] = .ok (.number 2958466.0) ∧
        Aggregate.max.apply [.date far] ≠ .ok (.date far) ∧
        Aggregate.min.apply [.date far] ≠ .ok (.date far)) ∧
      (Aggregate.max.apply [.date fraction] = .ok (.date ⟨⟨43831⟩, 0, 0⟩) ∧
        Aggregate.max.apply [.date fraction] ≠ .ok (.date fraction)) ∧
      Aggregate.max.apply [.date leap] = .ok (.date ⟨⟨42736⟩, 0, 0⟩) ∧
      Aggregate.max.apply [.date leap] ≠ .ok (.date leap) := by
  refine ⟨⟨⟨?_, ?_, ?_⟩, ⟨?_, ?_, ?_⟩, ⟨?_, ?_, ?_⟩⟩, ⟨?_, ?_, ?_⟩, ⟨?_, ?_⟩, ?_, ?_⟩ <;>
    decide +kernel

end Spreadsheet.Value
