import Spreadsheet.Calendar.Moment
import Spreadsheet.Proofs.Calendar.Civil
import Spreadsheet.Proofs.Decimal.Quotients
import Spreadsheet.Proofs.Value.Defined

/-!
# Serial numbers and back

A serial number is a quotient of whole milliseconds.  Of two moments that differ in
their milliseconds the earlier one does not have the greater serial number
(`not_serialOf_lt`).  Back from a serial number comes the moment with these
milliseconds, up to the last day of the year 9999 (`ofSerial?_serialOf`).  That is the
first moment itself when it has no fraction of a millisecond and is not in a leap second
(`OnMillisecond.ofMilliseconds_eq`), and such moments are in the order of their
milliseconds (`before_iff`).
-/

namespace Spreadsheet.Calendar

open Spreadsheet.Decimal

variable {k l : Int}

/-! ## Milliseconds -/

theorem Date.number_bounds {d : Date} (h : d.inBounds = true) :
    -97000000 < d.number ∧ d.number < 97000000 := by
  have hbounds : yearBounds.1 ≤ d.civil.year ∧ d.civil.year ≤ yearBounds.2 := by
    simpa [inBounds] using h
  have hvalid := d.civil_valid
  have hday := hvalid.day_le
  have hlength := monthLength_le d.civil.year d.civil.month
  rw [← d.dayNumber_civil]
  unfold yearBounds at hbounds
  unfold Civil.dayNumber epochOffset
  dsimp only at hbounds ⊢
  split <;> omega

namespace Moment

/-- A moment of the calendar. -/
structure Valid (m : Moment) : Prop where
  /-- The date is in the calendar. -/
  date_inBounds : m.date.inBounds = true
  /-- The second is one of the day. -/
  seconds_lt : m.seconds < 86400
  /-- With a leap second there are two billion nanoseconds. -/
  nanos_lt : m.nanos < 2000000000

/-- A moment is on a whole millisecond and not in a leap second. -/
structure OnMillisecond (m : Moment) : Prop where
  /-- The millisecond is whole. -/
  dvd : 1000000 ∣ m.nanos
  /-- The second is none of the leap seconds. -/
  nanos_lt : m.nanos < 1000000000

/-- A moment is before another one. -/
def Before (m m' : Moment) : Prop :=
  m.date.number < m'.date.number ∨ m.date.number = m'.date.number ∧
    (m.seconds < m'.seconds ∨ m.seconds = m'.seconds ∧ m.nanos < m'.nanos)

variable {m m' : Moment}

theorem Valid.milliseconds_lt (h : m.Valid) : m.milliseconds.natAbs < 2 ^ 53 := by
  have hdate := Date.number_bounds h.date_inBounds
  have hseconds := h.seconds_lt
  have hnanos := h.nanos_lt
  rw [milliseconds, Int.natAbs_tdiv]
  change _ / 1000000 < _
  omega

theorem OnMillisecond.milliseconds_eq (h : m.OnMillisecond) :
    m.milliseconds = (m.date.number * 86400 + m.seconds) * 1000 + (m.nanos / 1000000 : Nat) := by
  obtain ⟨j, hj⟩ := h.dvd
  unfold milliseconds
  rw [hj, Nat.mul_div_cancel_left _ (by decide)]
  have hproduct : (m.date.number * 86400 + m.seconds) * 1000000000 + (1000000 * j : Nat) =
      ((m.date.number * 86400 + m.seconds) * 1000 + j) * 1000000 := by
    push_cast
    ring
  rw [hproduct, Int.mul_tdiv_cancel _ (by decide)]

/-- The milliseconds of such a moment lead back to it. -/
theorem OnMillisecond.ofMilliseconds_eq (h : m.OnMillisecond) (hm : m.seconds < 86400) :
    ofMilliseconds m.milliseconds = m := by
  obtain ⟨j, hj⟩ := h.dvd
  have hnanos := h.nanos_lt
  rw [h.milliseconds_eq]
  obtain ⟨⟨number⟩, seconds, nanos⟩ := m
  unfold ofMilliseconds
  dsimp only at *
  rw [mk.injEq, Date.mk.injEq]
  refine ⟨by omega, by omega, by omega⟩

theorem before_iff (h : m.OnMillisecond) (h' : m'.OnMillisecond) (hm : m.seconds < 86400)
    (hm' : m'.seconds < 86400) : m.Before m' ↔ m.milliseconds < m'.milliseconds := by
  obtain ⟨j, hj⟩ := h.dvd
  obtain ⟨j', hj'⟩ := h'.dvd
  have hnanos := h.nanos_lt
  have hnanos' := h'.nanos_lt
  rw [h.milliseconds_eq, h'.milliseconds_eq, Before]
  omega

theorem not_before_of_le (h : m.OnMillisecond) (h' : m'.OnMillisecond) (hm : m.Valid)
    (hm' : m'.Valid) (hle : m'.milliseconds ≤ m.milliseconds) : ¬ m.Before m' := by
  rw [before_iff h h' hm.seconds_lt hm'.seconds_lt]
  exact not_lt.2 hle

end Moment

/-! ## Serial numbers -/

/-- The serial number of a number of milliseconds. -/
def serialOf (k : Int) : Float := Float.ofInt k / millisecondsPerDay

/-- The milliseconds up to which a serial number stands for a moment, at the beginning of the last
day of the year 9999. -/
def serialLimit : Nat := 2958465 * 86400000

theorem exists_day : ∃ m e, Factor m e ∧ valueOf m e = 86400000 ∧
    millisecondsPerDay = floatOf .positive m e := by
  obtain ⟨hcanonical, hvalue⟩ := valueOf_full_length (n := 86400000) (by decide) (by decide)
  exact ⟨_, _, ⟨hcanonical, by decide, by decide, by decide⟩, by exact_mod_cast hvalue, rfl⟩

section

variable (hk : k.natAbs < 2 ^ 53)
include hk

theorem exists_serialOf : ∃ m e, RoundsTo (k.natAbs / 86400000) m e ∧ e ≤ 971 ∧
    serialOf k = floatOf (signOf k) m e := by
  obtain ⟨m', e', hday, hvalue, heq⟩ := exists_day
  obtain ⟨m, e, hround, he, -, hserial⟩ := exists_divided hday hk
  rw [hvalue] at hround
  exact ⟨m, e, hround, he, by rw [serialOf, heq, hserial]⟩

theorem isFinite_serialOf : (serialOf k).isFinite = true := by
  obtain ⟨m, e, hround, he, heq⟩ := exists_serialOf hk
  rw [heq, isFinite_floatOf _ hround.canonical]
  exact he

theorem isNaN_serialOf : (serialOf k).isNaN = false := isNaN_of_isFinite (isFinite_serialOf hk)

theorem abs_serialOf : (serialOf k).abs = serialOf k.natAbs := by
  obtain ⟨m, e, hround, he, heq⟩ := exists_serialOf hk
  obtain ⟨m', e', hround', -, heq'⟩ := exists_serialOf (k := k.natAbs) hk
  obtain ⟨rfl, rfl⟩ := hround.unique hround'
  rw [heq, heq', abs_floatOf _ hround.canonical he, signOf_of_nonneg (Int.natCast_nonneg _)]

/-- Serial numbers are in the order of the milliseconds. -/
theorem not_serialOf_lt (hl : l.natAbs < 2 ^ 53) (hle : k ≤ l) : ¬ serialOf l < serialOf k := by
  obtain ⟨m', e', hday, -, heq⟩ := exists_day
  unfold serialOf
  rw [heq]
  exact not_divided_lt hday hk hl hle

/-- Serial numbers that are equal are the same float. -/
theorem serialOf_eq (hl : l.natAbs < 2 ^ 53) (hle : k ≤ l) (hnot : ¬ serialOf k < serialOf l) :
    serialOf k = serialOf l := by
  obtain ⟨m', e', hday, -, heq⟩ := exists_day
  unfold serialOf at hnot ⊢
  rw [heq] at hnot ⊢
  exact divided_eq hday hk hl hle hnot

omit hk in
theorem maxSerial_eq : maxSerial = serialOf serialLimit := by
  obtain ⟨hcanonical, hvalue⟩ := valueOf_full_length (n := 2958465) (by decide) (by decide)
  obtain ⟨m, e, hround, -, heq⟩ := exists_serialOf (k := serialLimit) (by decide)
  have hexact : ((serialLimit : Int).natAbs : ℚ) / 86400000 = (2958465 : ℕ) := by
    norm_num [serialLimit]
  rw [hexact, ← hvalue] at hround
  obtain ⟨rfl, rfl⟩ := hcanonical.roundsTo.unique hround
  rw [heq]
  rfl

theorem maxSerial_lt_iff : maxSerial < (serialOf k).abs ↔ serialLimit < k.natAbs := by
  have hnext : maxSerial < serialOf (serialLimit + 1) := by decide
  rw [maxSerial_eq] at hnext
  rw [abs_serialOf hk, maxSerial_eq]
  constructor
  · intro hlt
    by_contra hle
    exact not_serialOf_lt (by exact hk) (by decide) (by omega) hlt
  · intro hlt
    have hnot : ¬ serialOf k.natAbs < serialOf (serialLimit + 1) :=
      not_serialOf_lt (by decide) (by exact hk) (by omega)
    exact lt_of_lt_of_not_lt (isNaN_serialOf (by decide)) (isNaN_serialOf (by exact hk))
      (isNaN_serialOf (by decide)) hnext hnot

/-- Within the limit a serial number stands for the moment with its milliseconds. -/
theorem ofSerial?_serialOf : Moment.ofSerial? (serialOf k) =
    if k.natAbs ≤ serialLimit then some (.ofMilliseconds k) else none := by
  have hguard : (!(serialOf k).isFinite || decide (maxSerial < (serialOf k).abs)) =
      decide (serialLimit < k.natAbs) := by
    rw [isFinite_serialOf hk]
    simpa using maxSerial_lt_iff hk
  unfold Moment.ofSerial?
  rw [hguard]
  obtain hle | hlt := le_or_gt k.natAbs serialLimit
  · rw [if_pos hle, decide_eq_false (Nat.not_lt.2 hle), if_neg Bool.false_ne_true]
    obtain ⟨m', e', hday, hvalue, heq⟩ := exists_day
    have hquotient : (k.natAbs : ℚ) / valueOf m' e' ≤ 2 ^ (22 : ℤ) := by
      rw [hvalue, div_le_iff₀ (by norm_num)]
      have hcast : (k.natAbs : ℚ) ≤ serialLimit := Nat.cast_le.2 hle
      exact hcast.trans (by norm_num [serialLimit])
    have hback := toSigned64_divided_mul hday (j := 27) (by decide) (by decide) (by decide) hquotient
      (by rw [hvalue]; norm_num)
    rw [serialOf, heq, hback]
  · rw [if_neg (Nat.not_le.2 hlt), decide_eq_true hlt, if_pos rfl]

end

end Spreadsheet.Calendar
