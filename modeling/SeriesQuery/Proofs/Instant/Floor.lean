import Mathlib.Data.Rat.Floor
import SeriesQuery.Instant
import SeriesQuery.Proofs.Instant.Calendar

/-!
# Timestamps round towards the past

A timestamp is the last whole millisecond that is not after its instant. A clock reading before 1970
is a distance, so there a started millisecond has to count as a whole one; that is the floor of the
negative number. Only a clock reading can lie outside the range of timestamps, and then its cell is
the bound on its side. A date between the years -9999 and 9999 is never that far away, whatever its
offset.
-/

namespace SeriesQuery

/-- The nanoseconds from the start of 1970 to a clock reading, below zero before it. -/
def ClockReading.sinceEpoch (r : ClockReading) : Int :=
  let distance := r.seconds.toNat * 1000000000 + r.nanos.val
  if r.before then -(distance : Int) else distance

namespace ZonedTime

/-- The nanoseconds that have passed since the start of 1970 by the clock that shows the instant. -/
def localNanos (t : ZonedTime) : Int := t.nanos + t.offset * 1000000000

/-- The date that the clock shows. -/
def localDate (t : ZonedTime) : Calendar.Date := .ofDay (t.localNanos / 86400000000000)

/-- The clock shows a year from -9999 to 9999, and its offset is below 26 hours. -/
structure InCalendar (t : ZonedTime) : Prop where
  first_le : -9999 ≤ t.localDate.year
  le_last : t.localDate.year ≤ 9999
  offset_gt : -93600 < t.offset
  offset_lt : t.offset < 93600

end ZonedTime

/-- The last whole millisecond that is not after the instant. -/
def floorMillis (nanos : Int) : Int :=
  ⌊(nanos : ℚ) / 1000000⌋

/-- The nearest value that a timestamp can hold. -/
def nearestMillis (millis : Int) : Int :=
  max Int64.minValue.toInt (min millis Int64.maxValue.toInt)

theorem floorMillis_eq (nanos : Int) : floorMillis nanos = nanos / 1000000 := by
  rw [floorMillis]
  exact Rat.floor_intCast_div_natCast nanos 1000000

theorem floorMillis_mono {nanos later : Int} (h : nanos ≤ later) :
    floorMillis nanos ≤ floorMillis later := by
  rw [floorMillis_eq, floorMillis_eq]
  exact Int.ediv_le_ediv (by decide) h

theorem nearestMillis_mono {millis more : Int} (h : millis ≤ more) :
    nearestMillis millis ≤ nearestMillis more :=
  max_le_max_left _ (min_le_min_right _ h)

theorem nearestMillis_of_mem {millis : Int} (hlow : Int64.minValue.toInt ≤ millis)
    (hhigh : millis ≤ Int64.maxValue.toInt) : nearestMillis millis = millis := by
  rw [nearestMillis, min_eq_left hhigh, max_eq_right hlow]

/-! ### The two ways to hold an instant -/

theorem ClockReading.toInt_toMillis (r : ClockReading) :
    r.toMillis.toInt = nearestMillis (floorMillis r.sinceEpoch) := by
  have hnanos := r.nanos.isLt
  rw [floorMillis_eq, nearestMillis, Int64.toInt_minValue, Int64.toInt_maxValue, sinceEpoch,
    toMillis, wholeMillis, millisPerSecond, nanosPerMilli]
  cases r.before with
  | true =>
    simp only [if_true]
    split
    · split
      · rw [Int64.toInt_ofInt_of_le (by omega) (by omega)]
        omega
      · rw [Int64.toInt_minValue]
        omega
    · split
      · rw [Int64.toInt_ofInt_of_le (by omega) (by omega)]
        omega
      · rw [Int64.toInt_minValue]
        omega
  | false =>
    simp only [Bool.false_eq_true, if_false]
    split
    · rw [Int64.toInt_ofNat_of_lt (by omega)]
      omega
    · rw [Int64.toInt_maxValue]
      omega

/-- The floor of an instant in the calendar is a timestamp. -/
theorem ZonedTime.InCalendar.floorMillis_bounds {t : ZonedTime} (h : t.InCalendar) :
    Int64.minValue.toInt ≤ floorMillis t.nanos ∧ floorMillis t.nanos ≤ Int64.maxValue.toInt := by
  have hdays := Calendar.Date.number_bounds h.first_le h.le_last
  rw [localDate, localNanos, Calendar.Date.number_ofDay] at hdays
  have hgt := h.offset_gt
  have hlt := h.offset_lt
  rw [floorMillis_eq, Int64.toInt_minValue, Int64.toInt_maxValue]
  omega

theorem ZonedTime.InCalendar.toInt_toMillis {t : ZonedTime} (h : t.InCalendar) :
    t.toMillis.toInt = floorMillis t.nanos := by
  obtain ⟨hlow, hhigh⟩ := h.floorMillis_bounds
  rw [Int64.toInt_minValue] at hlow
  rw [Int64.toInt_maxValue] at hhigh
  rw [floorMillis_eq] at hlow hhigh ⊢
  have htimestamp : t.toMillis = Int64.ofInt (t.nanos / 1000000) := rfl
  rw [htimestamp, Int64.toInt_ofInt_of_le hlow (by omega)]

/-- The cell is made from the instant, which is held in either way. -/
inductive MadeAt (nanos : Int) : Cell → Prop where
  | clock (r : ClockReading) : r.sinceEpoch = nanos → MadeAt nanos (.ofClockReading r)
  | zoned (t : ZonedTime) : t.InCalendar → t.nanos = nanos → MadeAt nanos (.ofZonedTime t)

theorem MadeAt.exists_millis {nanos : Int} {cell : Cell} (h : MadeAt nanos cell) :
    ∃ millis : Int64, cell = .timestamp millis ∧
      millis.toInt = nearestMillis (floorMillis nanos) := by
  cases h with
  | clock r hr =>
    obtain rfl := hr
    exact ⟨r.toMillis, rfl, r.toInt_toMillis⟩
  | zoned t ht hnanos =>
    obtain rfl := hnanos
    obtain ⟨hlow, hhigh⟩ := ht.floorMillis_bounds
    refine ⟨t.toMillis, rfl, ?_⟩
    rw [ht.toInt_toMillis, nearestMillis_of_mem hlow hhigh]

/-- The timestamp of a clock reading is the floor of its milliseconds, or the bound on its side when a
timestamp cannot hold that. The timestamp of a time in the calendar is always the floor. So cells made
from one instant are equal, whatever the offset, and a later instant never has a smaller timestamp. -/
theorem timestamps_round_towards_past :
    (∀ r : ClockReading, ∃ millis : Int64, Cell.ofClockReading r = .timestamp millis ∧
      millis.toInt = nearestMillis (floorMillis r.sinceEpoch) ∧
      (millis.toInt ≠ floorMillis r.sinceEpoch →
        floorMillis r.sinceEpoch < Int64.minValue.toInt ∨
          Int64.maxValue.toInt < floorMillis r.sinceEpoch)) ∧
    (∀ t : ZonedTime, t.InCalendar → ∃ millis : Int64, Cell.ofZonedTime t = .timestamp millis ∧
      millis.toInt = floorMillis t.nanos) ∧
    (∀ (nanos : Int) (cell other : Cell), MadeAt nanos cell → MadeAt nanos other → cell = other) ∧
    ∀ (nanos later : Int) (cell other : Cell), nanos ≤ later →
      MadeAt nanos cell → MadeAt later other →
      ∃ millis more : Int64, cell = .timestamp millis ∧ other = .timestamp more ∧
        millis ≤ more := by
  refine ⟨?_, ?_, ?_, ?_⟩
  · intro r
    refine ⟨r.toMillis, rfl, r.toInt_toMillis, ?_⟩
    intro hne
    by_contra hinside
    push Not at hinside
    rw [r.toInt_toMillis, nearestMillis_of_mem hinside.1 hinside.2] at hne
    exact hne rfl
  · intro t ht
    exact ⟨t.toMillis, rfl, ht.toInt_toMillis⟩
  · intro nanos cell other hcell hother
    obtain ⟨millis, rfl, hmillis⟩ := hcell.exists_millis
    obtain ⟨more, rfl, hmore⟩ := hother.exists_millis
    obtain rfl : millis = more := Int64.toInt_inj.1 (hmillis.trans hmore.symm)
    rfl
  · intro nanos later cell other hle hcell hother
    obtain ⟨millis, rfl, hmillis⟩ := hcell.exists_millis
    obtain ⟨more, rfl, hmore⟩ := hother.exists_millis
    refine ⟨millis, more, rfl, rfl, ?_⟩
    rw [Int64.le_iff_toInt_le, hmillis, hmore]
    exact nearestMillis_mono (floorMillis_mono hle)

/-- Half a millisecond before 1970, on a clock and with an offset of an hour. -/
theorem timestamps_round_towards_past_before_epoch :
    ∃ (r : ClockReading) (t : ZonedTime), r.sinceEpoch = -500000 ∧ t.nanos = -500000 ∧
      t.offset = 3600 ∧ t.InCalendar ∧ Cell.ofClockReading r = Cell.ofZonedTime t ∧
      ∃ millis : Int64, Cell.ofZonedTime t = .timestamp millis ∧ millis.toInt = -1 := by
  let r : ClockReading := { before := true, seconds := 0, nanos := 500000 }
  let t : ZonedTime := { nanos := -500000, offset := 3600 }
  have hclock : r.sinceEpoch = -500000 := by decide +kernel
  have hyear : t.localDate.year = 1970 := rfl
  have ht : t.InCalendar := ⟨by omega, by omega, by decide, by decide⟩
  obtain ⟨-, hzoned, hagree, -⟩ := timestamps_round_towards_past
  obtain ⟨millis, hcell, hmillis⟩ := hzoned t ht
  refine ⟨r, t, hclock, rfl, rfl, ht, hagree _ _ _ (.clock r hclock) (.zoned t ht rfl), millis,
    hcell, ?_⟩
  rw [hmillis, floorMillis_eq]
  rfl

end SeriesQuery
