import Mathlib.Algebra.BigOperators.Group.Finset.Basic
import Mathlib.Algebra.Order.BigOperators.Group.Finset
import Mathlib.Data.Prod.Lex

/-!
# The calendar

A day is counted from the first one of year 0, by the lengths of the years and of the months before
it, and a moment by its day and by its second of that day.  Both are in the order of their parts,
from the year on.
-/

open Finset (range)

namespace Toolshed.Timestamp

/-! ### Years and months -/

/-- A year has a leap day. -/
def isLeapYear (year : Nat) : Bool :=
  year % 4 = 0 && (year % 100 ≠ 0 || year % 400 = 0)

/-- The number of days of a year. -/
def yearLength (year : Nat) : Nat :=
  if isLeapYear year then 366 else 365

/-- The number of days of a month, the first of which is the month 1. -/
def monthLength (year month : Nat) : Nat :=
  if month = 2 then if isLeapYear year then 29 else 28
  else if month ∈ [4, 6, 9, 11] then 30
  else 31

theorem monthLength_le (year month : Nat) :
  monthLength year month ≤ 31
  := by
  rw [monthLength]
  split
  · split <;> decide
  · split <;> decide

/-- The months of a year make up the year. -/
theorem sum_monthLength (year : Nat) :
  ∑ i ∈ range 12, monthLength year (i + 1) = yearLength year
  := by
  rw [yearLength]
  rcases leap : isLeapYear year with _ | _
  · simp [Finset.sum_range_succ, monthLength, leap]
  · simp [Finset.sum_range_succ, monthLength, leap]

/-- What is counted before a place in one of many blocks is less than what there is before a later
block. -/
theorem sum_range_add_lt (size : Nat → Nat) {m n i : Nat} (inside : i < size m) (less : m < n) :
  ∑ k ∈ range m, size k + i < ∑ k ∈ range n, size k
  := by
  have next : ∑ k ∈ range (m + 1), size k ≤ ∑ k ∈ range n, size k := by
    apply Finset.sum_le_sum_of_subset
    apply Finset.range_mono
    apply less
  rw [Finset.sum_range_succ] at next
  omega

/-- Places in blocks are counted in the order of the blocks, and inside of a block in their own. -/
theorem sum_range_add_lt_iff (size : Nat → Nat) {m n i j : Nat} (inside : i < size m)
    (inside' : j < size n) :
  ∑ k ∈ range m, size k + i < ∑ k ∈ range n, size k + j ↔ m < n ∨ m = n ∧ i < j
  := by
  rcases Nat.lt_trichotomy m n with less | rfl | more
  · have := sum_range_add_lt size inside less
    omega
  · omega
  · have := sum_range_add_lt size inside' more
    omega

/-! ### Days -/

/-- A day of the calendar, in a year of four digits. -/
structure Day where
  year : Nat
  month : Nat
  dayOfMonth : Nat
  year_lt : year < 10000
  month_pos : 0 < month
  month_le : month ≤ 12
  dayOfMonth_pos : 0 < dayOfMonth
  dayOfMonth_le : dayOfMonth ≤ monthLength year month

namespace Day

/-- The number of days of its year before a day. -/
def dayOfYear (d : Day) : Nat :=
  ∑ i ∈ range (d.month - 1), monthLength d.year (i + 1) + (d.dayOfMonth - 1)

/-- The number of days before a day, from the start of year 0. -/
def number (d : Day) : Nat :=
  ∑ year ∈ range d.year, yearLength year + d.dayOfYear

variable (d e : Day)

theorem dayOfMonth_sub_one_lt :
  d.dayOfMonth - 1 < monthLength d.year (d.month - 1 + 1)
  := by
  have pos := d.month_pos
  have pos' := d.dayOfMonth_pos
  have le := d.dayOfMonth_le
  rw [Nat.sub_add_cancel pos]
  omega

theorem dayOfYear_lt :
  d.dayOfYear < yearLength d.year
  := by
  rw [← sum_monthLength]
  apply sum_range_add_lt (fun i => monthLength d.year (i + 1)) d.dayOfMonth_sub_one_lt
  have pos := d.month_pos
  have le := d.month_le
  omega

/-- Days are counted in the order of their years, months and days of the month. -/
theorem number_lt_iff :
  d.number < e.number ↔ d.year < e.year ∨ d.year = e.year
    ∧ (d.month < e.month ∨ d.month = e.month ∧ d.dayOfMonth < e.dayOfMonth)
  := by
  rw [number, number, sum_range_add_lt_iff yearLength d.dayOfYear_lt e.dayOfYear_lt]
  apply or_congr_right
  apply and_congr_right
  intro same
  have inside := e.dayOfMonth_sub_one_lt
  rw [← same] at inside
  rw [dayOfYear, dayOfYear, ← same,
    sum_range_add_lt_iff (fun i => monthLength d.year (i + 1)) d.dayOfMonth_sub_one_lt inside]
  have pos := d.month_pos
  have pos' := e.month_pos
  have pos'' := d.dayOfMonth_pos
  have pos''' := e.dayOfMonth_pos
  omega

theorem number_eq_iff :
  d.number = e.number ↔ d.year = e.year ∧ d.month = e.month ∧ d.dayOfMonth = e.dayOfMonth
  := by
  have less := d.number_lt_iff e
  have more := e.number_lt_iff d
  omega

end Day

/-! ### Moments -/

/-- A moment of universal time, down to the second.  A minute has 60 seconds, the last one of a day
may have one more. -/
structure Moment where
  day : Day
  hour : Nat
  minute : Nat
  second : Nat
  hour_lt : hour < 24
  minute_lt : minute < 60
  second_lt : second < 60 ∨ hour = 23 ∧ minute = 59 ∧ second = 60

namespace Moment

/-- The number of seconds of its day before a moment. -/
def secondOfDay (m : Moment) : Nat :=
  3600 * m.hour + 60 * m.minute + m.second

/-- The place of a moment in time: its day comes first, then its second of that day. -/
def time (m : Moment) : Nat ×ₗ Nat :=
  toLex (m.day.number, m.secondOfDay)

variable (m n : Moment)

theorem secondOfDay_lt_iff :
  m.secondOfDay < n.secondOfDay ↔ m.hour < n.hour ∨ m.hour = n.hour
    ∧ (m.minute < n.minute ∨ m.minute = n.minute ∧ m.second < n.second)
  := by
  have bounds := m.second_lt
  have bounds' := n.second_lt
  have minutes := m.minute_lt
  have minutes' := n.minute_lt
  have hours := m.hour_lt
  have hours' := n.hour_lt
  rw [secondOfDay, secondOfDay]
  omega

theorem time_lt_iff :
  m.time < n.time ↔ m.day.number < n.day.number
    ∨ m.day.number = n.day.number ∧ m.secondOfDay < n.secondOfDay
  := by
  apply Prod.Lex.toLex_lt_toLex

end Moment

end Toolshed.Timestamp
