import Mathlib.Logic.Function.Iterate
import Mathlib.Tactic.SplitIfs
import SeriesQuery.Instant.Calendar

/-!
# Day numbers count the days

After a date comes the next day of its month, after the last day of a month the first of the next
month, and after December the next year. Counting in this way from the first of January 1970,
forwards or backwards, gives every day number its date. The day number that is computed from the
year, the month and the day of a date at once is the count that leads to it (`number_ofDay`).
-/

namespace SeriesQuery.Calendar

theorem daysInMonth_bounds (year : Int) (month : Nat) :
    1 ≤ daysInMonth year month ∧ daysInMonth year month ≤ 31 := by
  unfold daysInMonth
  split_ifs <;> omega

/-- A date of the calendar. -/
structure Date where
  year : Int
  month : Nat
  day : Nat
  month_pos : 1 ≤ month
  month_le : month ≤ 12
  day_pos : 1 ≤ day
  day_le : day ≤ daysInMonth year month

namespace Date

/-- The first of January 1970. -/
def epoch : Date where
  year := 1970
  month := 1
  day := 1
  month_pos := by decide
  month_le := by decide
  day_pos := by decide
  day_le := by decide

/-- The first day of a month. -/
def firstOfMonth (year : Int) (month : Nat) (hpos : 1 ≤ month) (hle : month ≤ 12) : Date where
  year
  month
  day := 1
  month_pos := hpos
  month_le := hle
  day_pos := Nat.le_refl 1
  day_le := (daysInMonth_bounds year month).1

/-- The last day of a month. -/
def lastOfMonth (year : Int) (month : Nat) (hpos : 1 ≤ month) (hle : month ≤ 12) : Date where
  year
  month
  day := daysInMonth year month
  month_pos := hpos
  month_le := hle
  day_pos := (daysInMonth_bounds year month).1
  day_le := Nat.le_refl _

/-- The day after a date. -/
def next (d : Date) : Date :=
  if hday : d.day < daysInMonth d.year d.month then
    { d with day := d.day + 1, day_pos := Nat.le_add_left 1 _, day_le := hday }
  else if hmonth : d.month < 12 then
    firstOfMonth d.year (d.month + 1) (Nat.le_add_left 1 _) hmonth
  else firstOfMonth (d.year + 1) 1 (by decide) (by decide)

/-- The day before a date. -/
def previous (d : Date) : Date :=
  if hday : 1 < d.day then
    { d with
      day := d.day - 1
      day_pos := Nat.le_sub_one_of_lt hday
      day_le := Nat.le_trans (Nat.sub_le _ _) d.day_le }
  else if hmonth : 1 < d.month then
    lastOfMonth d.year (d.month - 1) (Nat.le_sub_one_of_lt hmonth)
      (Nat.le_trans (Nat.sub_le _ _) d.month_le)
  else lastOfMonth (d.year - 1) 12 (by decide) (by decide)

/-- The date so many days after the epoch, or before it. -/
def ofDay : Int → Date
  | .ofNat n => next^[n] epoch
  | .negSucc n => previous^[n + 1] epoch

def number (d : Date) : Int :=
  dayNumber d.year d.month d.day

end Date

/-! ### The length of months and years -/

theorem daysBeforeMonth_succ (year : Int) {month : Nat} (h : 1 ≤ month) :
    daysBeforeMonth year (month + 1) = daysBeforeMonth year month + daysInMonth year month := by
  obtain ⟨before, rfl⟩ : ∃ before, month = before + 1 := ⟨month - 1, by omega⟩
  rw [daysBeforeMonth, daysBeforeMonth, Nat.add_sub_cancel, Nat.add_sub_cancel,
    List.range'_1_concat, List.foldl_append, List.foldl_cons, List.foldl_nil, Nat.add_comm 1]

def daysInYear (year : Int) : Nat := if isLeapYear year then 366 else 365

theorem daysBeforeMonth_thirteen (year : Int) : daysBeforeMonth year 13 = daysInYear year := by
  have hyear : daysBeforeMonth year 13 = 337 + daysInMonth year 2 := by
    simp [daysBeforeMonth, List.range', daysInMonth]
    omega
  rw [hyear, daysInMonth, if_pos rfl, daysInYear]
  split <;> rfl

theorem firstDayOfYear_succ (year : Int) :
    firstDayOfYear (year + 1) = firstDayOfYear year + daysInYear year := by
  have hleap : isLeapYear year = true ↔ year % 4 = 0 ∧ (year % 100 ≠ 0 ∨ year % 400 = 0) := by
    simp [isLeapYear]
  simp only [firstDayOfYear, daysInYear]
  by_cases h : isLeapYear year = true
  · have hdivides := hleap.1 h
    rw [if_pos h]
    omega
  · have hdivides := mt hleap.2 h
    rw [if_neg h]
    omega

/-! ### Day numbers -/

namespace Date

theorem number_next (d : Date) : d.next.number = d.number + 1 := by
  have hday := d.day_pos
  have hle := d.day_le
  have hmonth := d.month_le
  rw [next]
  split
  · simp only [number, dayNumber]
    omega
  · have hlast : d.day = daysInMonth d.year d.month := by omega
    split
    · simp only [number, dayNumber, firstDayOfMonth, firstOfMonth]
      rw [daysBeforeMonth_succ d.year d.month_pos]
      omega
    · have hdecember : d.month = 12 := by omega
      have hyear : daysInYear d.year =
          daysBeforeMonth d.year d.month + daysInMonth d.year d.month := by
        rw [← daysBeforeMonth_succ d.year d.month_pos, hdecember, daysBeforeMonth_thirteen]
      have hjanuary : daysBeforeMonth (d.year + 1) 1 = 0 := rfl
      simp only [number, dayNumber, firstDayOfMonth, firstOfMonth, firstDayOfYear_succ, hjanuary]
      omega

theorem next_previous (d : Date) : d.previous.next = d := by
  obtain ⟨year, month, day, hmonth, hmonthLe, hday, hdayLe⟩ := d
  rw [previous]
  split
  · rename_i hlater
    dsimp only at hlater
    rw [next, dif_pos (by dsimp only; omega)]
    simp only [Date.mk.injEq, true_and]
    omega
  · rename_i hfirst
    dsimp only at hfirst
    obtain rfl : day = 1 := by omega
    split
    · rename_i hlater
      dsimp only at hlater
      rw [next, dif_neg (by simp [lastOfMonth]), dif_pos (by dsimp only [lastOfMonth]; omega)]
      simp only [lastOfMonth, firstOfMonth, Date.mk.injEq, true_and, and_true]
      omega
    · rename_i hjanuary
      dsimp only at hjanuary
      obtain rfl : month = 1 := by omega
      rw [next, dif_neg (by simp [lastOfMonth]), dif_neg (by simp [lastOfMonth])]
      simp [lastOfMonth, firstOfMonth]

theorem number_previous (d : Date) : d.previous.number = d.number - 1 := by
  have h := number_next d.previous
  rw [next_previous] at h
  omega

/-- Counting days from the epoch leads to the date with that day number. -/
theorem number_ofDay (day : Int) : (ofDay day).number = day := by
  cases day with
  | ofNat n =>
    induction n with
    | zero => rfl
    | succ n ih =>
      rw [ofDay] at ih
      rw [ofDay, Function.iterate_succ_apply', number_next, ih]
      rfl
  | negSucc n =>
    induction n with
    | zero =>
      rw [ofDay, Function.iterate_succ_apply', Function.iterate_zero_apply, number_previous]
      rfl
    | succ n ih =>
      rw [ofDay] at ih
      rw [ofDay, Function.iterate_succ_apply', number_previous, ih]
      omega

end Date

/-! ### Bounds -/

theorem daysBeforeMonth_le (year : Int) {month : Nat} (h : 1 ≤ month) :
    daysBeforeMonth year month ≤ 31 * (month - 1) := by
  induction h with
  | refl => exact Nat.le_refl 0
  | @step month h ih =>
    have hpos : 1 ≤ month := h
    have hmonth := (daysInMonth_bounds year month).2
    rw [daysBeforeMonth_succ year hpos]
    omega

/-- The dates of twenty thousand years lie within five million days of the epoch. -/
theorem Date.number_bounds {d : Date} (hfirst : -9999 ≤ d.year) (hlast : d.year ≤ 9999) :
    -5000000 < d.number ∧ d.number < 5000000 := by
  have hbefore := daysBeforeMonth_le d.year d.month_pos
  have hmonth := d.month_le
  have hday := d.day_le
  have hlength := (daysInMonth_bounds d.year d.month).2
  simp only [Date.number, dayNumber, firstDayOfMonth, firstDayOfYear]
  omega

end SeriesQuery.Calendar
