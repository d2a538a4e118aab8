/-
  Kelpie.Lib.Calendar

  The proleptic Gregorian calendar: its dates, the date after a date, and the number
  of each day.
-/

import Mathlib.Algebra.BigOperators.Intervals
import Mathlib.Algebra.Order.BigOperators.Group.Finset
import Mathlib.Algebra.Order.Ring.Int
import Mathlib.Order.Monotone.Basic
import Mathlib.Order.SuccPred.IntervalSucc
import Mathlib.Tactic.IntervalCases

namespace Kelpie.Lib

-- ============================================================================
-- Years and months
-- ============================================================================

/-- The year has a 29 February. -/
def LeapYear (year : Int) : Prop := year % 4 = 0 ∧ (year % 100 ≠ 0 ∨ year % 400 = 0)

instance : DecidablePred LeapYear := fun year =>
  inferInstanceAs (Decidable (year % 4 = 0 ∧ (year % 100 ≠ 0 ∨ year % 400 = 0)))

/-- The length of a month. -/
def daysInMonth (year : Int) (month : Nat) : Nat :=
  if month = 2 then (if LeapYear year then 29 else 28)
  else if month = 4 ∨ month = 6 ∨ month = 9 ∨ month = 11 then 30 else 31

/-- The days of the year before the month begins. -/
def daysBeforeMonth (year : Int) (month : Nat) : Nat :=
  ∑ m ∈ Finset.Ico 1 month, daysInMonth year m

/-- The length of a year. -/
def daysInYear (year : Int) : Nat := if LeapYear year then 366 else 365

/-- The days from the beginning of year 1 to that of the year. -/
def daysBeforeYear (year : Int) : Int :=
  365 * (year - 1) + (year - 1) / 4 - (year - 1) / 100 + (year - 1) / 400

variable {year year' : Int} {month month' : Nat}

theorem daysInMonth_le : daysInMonth year month ≤ 31 := by
  unfold daysInMonth
  split_ifs <;> omega

theorem daysBeforeMonth_succ (h : 1 ≤ month) :
    daysBeforeMonth year (month + 1) = daysBeforeMonth year month + daysInMonth year month :=
  Finset.sum_Ico_succ_top h _

theorem daysBeforeMonth_mono (h : month ≤ month') :
    daysBeforeMonth year month ≤ daysBeforeMonth year month' :=
  Finset.sum_le_sum_of_subset (Finset.Ico_subset_Ico_right h)

/-- The months make up the year. -/
theorem daysBeforeMonth_thirteen : daysBeforeMonth year 13 = daysInYear year := by
  by_cases h : LeapYear year <;>
    simp [daysBeforeMonth, daysInMonth, daysInYear, Finset.sum_Ico_succ_top, h]

theorem daysBeforeYear_succ :
    daysBeforeYear (year + 1) = daysBeforeYear year + daysInYear year := by
  unfold daysBeforeYear daysInYear
  by_cases h : LeapYear year
  · rw [if_pos h]
    unfold LeapYear at h
    omega
  · rw [if_neg h]
    unfold LeapYear at h
    omega

theorem daysBeforeYear_mono {year year' : Int} (h : year ≤ year') :
    daysBeforeYear year ≤ daysBeforeYear year' := by
  refine monotone_int_of_le_succ (fun year => ?_) h
  rw [daysBeforeYear_succ]
  omega

-- ============================================================================
-- Dates
-- ============================================================================

/-- A date of the calendar. -/
@[ext] structure Date where
  year : Int
  month : Nat
  day : Nat
  month_pos : 1 ≤ month
  month_le : month ≤ 12
  day_pos : 1 ≤ day
  day_le : day ≤ daysInMonth year month

namespace Date

/-- The date after the date. -/
def next (d : Date) : Date :=
  if h : d.day < daysInMonth d.year d.month then
    { d with day := d.day + 1, day_pos := by omega, day_le := h }
  else if h' : d.month < 12 then
    { year := d.year, month := d.month + 1, day := 1, month_pos := by omega, month_le := h'
      day_pos := le_rfl
      day_le := by unfold daysInMonth; split_ifs <;> omega }
  else
    { year := d.year + 1, month := 1, day := 1, month_pos := le_rfl, month_le := by omega
      day_pos := le_rfl, day_le := by unfold daysInMonth; split_ifs <;> omega }

/-- The number of the day, counted from 1 January of year 1. -/
def dayNumber (d : Date) : Int :=
  daysBeforeYear d.year + daysBeforeMonth d.year d.month + d.day

theorem dayOfYear_le (d : Date) : daysBeforeMonth d.year d.month + d.day ≤ daysInYear d.year := by
  have h_month : daysBeforeMonth d.year d.month + d.day ≤ daysBeforeMonth d.year (d.month + 1) := by
    rw [daysBeforeMonth_succ d.month_pos]
    exact Nat.add_le_add_left d.day_le _
  have h_year : daysBeforeMonth d.year (d.month + 1) ≤ daysBeforeMonth d.year 13 :=
    daysBeforeMonth_mono (Nat.succ_le_succ d.month_le)
  rw [daysBeforeMonth_thirteen] at h_year
  exact h_month.trans h_year

/-- The number of a day lies in its year. -/
theorem dayNumber_mem (d : Date) :
    daysBeforeYear d.year < d.dayNumber ∧ d.dayNumber ≤ daysBeforeYear (d.year + 1) := by
  have h_le := d.dayOfYear_le
  have h_pos := d.day_pos
  rw [daysBeforeYear_succ]
  unfold dayNumber
  omega

/-- Day for day, without a gap. -/
theorem dayNumber_next (d : Date) : d.next.dayNumber = d.dayNumber + 1 := by
  unfold next
  split_ifs with h h'
  · simp only [dayNumber]
    push_cast
    omega
  · have h_last : d.day = daysInMonth d.year d.month := le_antisymm d.day_le (not_lt.mp h)
    simp only [dayNumber, daysBeforeMonth_succ d.month_pos]
    rw [h_last]
    push_cast
    omega
  · have h_last : d.day = daysInMonth d.year d.month := le_antisymm d.day_le (not_lt.mp h)
    have h_dec : d.month = 12 := le_antisymm d.month_le (not_lt.mp h')
    have h_year : daysBeforeMonth d.year 12 + daysInMonth d.year 12 = daysInYear d.year := by
      rw [← daysBeforeMonth_succ (by omega), daysBeforeMonth_thirteen]
    simp only [dayNumber, daysBeforeYear_succ, h_dec, h_last, ← h_year]
    simp only [daysBeforeMonth, Finset.Ico_self, Finset.sum_empty]
    push_cast
    omega

theorem year_le_of_dayNumber {d d' : Date} (h : d.dayNumber = d'.dayNumber) : d.year ≤ d'.year := by
  by_contra h_lt
  have h_mono := daysBeforeYear_mono (show d'.year + 1 ≤ d.year by omega)
  have h_lt := d.dayNumber_mem.1
  have h_le := d'.dayNumber_mem.2
  omega

theorem month_le_of_dayNumber {d d' : Date} (h : d.dayNumber = d'.dayNumber)
    (h_year : d.year = d'.year) : d.month ≤ d'.month := by
  by_contra h_lt
  have h_mono : daysBeforeMonth d'.year (d'.month + 1) ≤ daysBeforeMonth d'.year d.month :=
    daysBeforeMonth_mono (by omega)
  have h_le := d'.day_le
  have h_pos := d.day_pos
  rw [daysBeforeMonth_succ d'.month_pos] at h_mono
  unfold dayNumber at h
  rw [h_year] at h
  omega

/-- No two dates have one number. -/
theorem dayNumber_injective : Function.Injective dayNumber := by
  intro d d' h
  have h_year := le_antisymm (year_le_of_dayNumber h) (year_le_of_dayNumber h.symm)
  have h_month := le_antisymm (month_le_of_dayNumber h h_year)
    (month_le_of_dayNumber h.symm h_year.symm)
  refine Date.ext h_year h_month ?_
  unfold dayNumber at h
  rw [h_year, h_month] at h
  omega

end Date

end Kelpie.Lib
