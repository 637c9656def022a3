/-
The Gregorian calendar and the Unix clock.

Days are counted from the first of January of the year 1 by the usual closed
form.  The form adds the length of a year from one year to the next, so the days
of a span of years are 365 for each and one more for each leap year in it.
-/

import Mathlib.Init

set_option autoImplicit false

namespace Calendar

def IsLeap (year : Int) : Prop := year % 4 = 0 ∧ (year % 100 ≠ 0 ∨ year % 400 = 0)

instance (year : Int) : Decidable (IsLeap year) := by
  unfold IsLeap
  infer_instance

def daysBeforeYear (year : Int) : Int :=
  365 * (year - 1) + (year - 1) / 4 - (year - 1) / 100 + (year - 1) / 400

def monthLength (year : Int) (month : Nat) : Int :=
  if month = 2 then if IsLeap year then 29 else 28
  else if month = 4 ∨ month = 6 ∨ month = 9 ∨ month = 11 then 30
  else 31

/-- The days of the months before a month, which is numbered from 1. -/
def daysBeforeMonth (year : Int) : Nat → Int
  | 0 => 0
  | 1 => 0
  | month + 2 => daysBeforeMonth year (month + 1) + monthLength year (month + 1)

/-- Midnight of a date, in seconds since 1970. -/
def unixSeconds (year : Int) (month day : Nat) : Int :=
  86400 * (daysBeforeYear year - daysBeforeYear 1970 + daysBeforeMonth year month + (day - 1))

def leapYears (year : Int) : Nat → Nat
  | 0 => 0
  | count + 1 => leapYears year count + if IsLeap (year + count) then 1 else 0

theorem daysBeforeYear_succ (year : Int) :
    daysBeforeYear (year + 1) = daysBeforeYear year + 365 + if IsLeap year then 1 else 0 := by
  unfold daysBeforeYear
  by_cases leap : IsLeap year
  · rw [if_pos leap]
    unfold IsLeap at leap
    omega
  · rw [if_neg leap]
    unfold IsLeap at leap
    omega

theorem daysBeforeYear_add (year : Int) (count : Nat) :
    daysBeforeYear (year + count) = daysBeforeYear year + 365 * count + leapYears year count := by
  induction count with
  | zero => simp [leapYears]
  | succ count ih =>
      have next : year + ((count + 1 : Nat) : Int) = year + count + 1 := by omega
      rw [next, daysBeforeYear_succ, ih, leapYears]
      split <;> omega

theorem leapYears_le (year : Int) (count : Nat) : leapYears year count ≤ count := by
  induction count with
  | zero => exact Nat.le_refl _
  | succ count ih =>
      rw [leapYears]
      split <;> omega

theorem unixSeconds_add (year : Int) (count : Nat) :
    unixSeconds (year + count) 1 1 =
      unixSeconds year 1 1 + 86400 * (365 * count + leapYears year count) := by
  unfold unixSeconds
  rw [daysBeforeYear_add]
  simp only [daysBeforeMonth]
  omega

end Calendar
