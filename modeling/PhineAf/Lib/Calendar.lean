import Mathlib.Algebra.BigOperators.Intervals
import Mathlib.Tactic.Linarith

/-!
# The calendar

Dates of the Gregorian calendar, from the year 0 on, and the days between them: the
lengths of the years and of the months before a date are added up (`Date.dayNumber`).

A C library counts leap years instead, and takes the days before a month from a table
(`Tm.dayNumber`), for members that need not be in their ranges. For a date, it is the same
day: `Tm.dayNumber_eq`.
-/

namespace PhineAf

namespace Calendar

/-! ## Days -/

def isLeap (y : ℤ) : Bool := 4 ∣ y && (!decide (100 ∣ y) || 400 ∣ y)

def yearLength (y : ℕ) : ℕ := if isLeap y then 366 else 365

/-- The length of a month, from 1 on. -/
def monthLength (leap : Bool) (m : ℕ) : ℕ :=
  if m = 2 then if leap then 29 else 28
  else if m ∈ [4, 6, 9, 11] then 30
  else 31

theorem monthLength_le (leap : Bool) (m : ℕ) : monthLength leap m ≤ 31 := by
  rw [monthLength]
  split_ifs <;> decide

/-- The days from the start of the year 0 to that of a year. -/
def daysBeforeYear (y : ℕ) : ℕ := ∑ i ∈ Finset.range y, yearLength i

/-- The days of a year before a month. -/
def daysBeforeMonth (leap : Bool) (m : ℕ) : ℕ :=
  ∑ i ∈ Finset.range (m - 1), monthLength leap (i + 1)

/-- Every fourth year is a leap year, except for every hundredth that is not every four
    hundredth. -/
theorem daysBeforeYear_eq (y : ℕ) :
    daysBeforeYear y + (y + 99) / 100 = 365 * y + (y + 3) / 4 + (y + 399) / 400 := by
  induction y with
  | zero => rfl
  | succ y ih =>
    have hlength : yearLength y + (if 100 ∣ y then 1 else 0) =
        365 + (if 4 ∣ y then 1 else 0) + if 400 ∣ y then 1 else 0 := by
      rw [yearLength]
      simp only [isLeap, Bool.and_eq_true, Bool.or_eq_true, Bool.not_eq_true', decide_eq_true_eq,
        decide_eq_false_iff_not]
      split_ifs <;> omega
    have h4 : (y + 1 + 3) / 4 = (y + 3) / 4 + if 4 ∣ y then 1 else 0 := by
      split <;> omega
    have h100 : (y + 1 + 99) / 100 = (y + 99) / 100 + if 100 ∣ y then 1 else 0 := by
      split <;> omega
    have h400 : (y + 1 + 399) / 400 = (y + 399) / 400 + if 400 ∣ y then 1 else 0 := by
      split <;> omega
    rw [daysBeforeYear, Finset.sum_range_succ, ← daysBeforeYear, h4, h100, h400]
    linarith

/-- A date: it is one of its month, and that of its year. -/
structure Date where
  year : ℕ
  month : ℕ
  day : ℕ
  one_le_month : 1 ≤ month
  month_le : month ≤ 12
  one_le_day : 1 ≤ day
  day_le : day ≤ monthLength (isLeap year) month

/-- The days from the first of January 1970 to a date. -/
def Date.dayNumber (d : Date) : ℤ :=
  daysBeforeYear d.year + daysBeforeMonth (isLeap d.year) d.month + d.day - 1 -
    daysBeforeYear 1970

/-! ## Broken-down times -/

/-- A broken-down time: months from 0 on, years from 1900 on. -/
structure Tm where
  sec : ℤ := 0
  min : ℤ := 0
  hour : ℤ := 0
  mday : ℤ := 0
  mon : ℤ := 0
  year : ℤ := 0

namespace Tm

/-- The days before the months of a year that is not a leap year. -/
def monthStarts : List ℤ := [0, 31, 59, 90, 120, 151, 181, 212, 243, 273, 304, 334]

/-- The year, from 0 on, with the years in the month. -/
def fullYear (tm : Tm) : ℤ := tm.year + tm.mon / 12 + 1900

/-- The days from the first of January 1970. -/
def dayNumber (tm : Tm) : ℤ :=
  let year := tm.fullYear
  let mon := tm.mon % 12
  (year - 1970) * 365 + (year - 1969) / 4 - (year - 1901) / 100 + (year - 1601) / 400 +
    monthStarts.getD mon.toNat 0 + (if isLeap year && 1 < mon then 1 else 0) + tm.mday - 1

/-- The seconds from the start of 1970, as if there were no zones: `timegm`. -/
def seconds (tm : Tm) : ℤ := tm.dayNumber * 86400 + tm.hour * 3600 + tm.min * 60 + tm.sec

theorem monthStarts_eq : ∀ (leap : Bool) (m : ℕ), m < 12 →
    monthStarts.getD m 0 + (if leap && 1 < m then 1 else 0) = daysBeforeMonth leap (m + 1) := by
  decide

/-- The days of the years from 1970 on. -/
theorem daysBeforeYear_sub (y : ℕ) : (daysBeforeYear y : ℤ) - daysBeforeYear 1970 =
    (y - 1970) * 365 + (y - 1969) / 4 - (y - 1901) / 100 + (y - 1601) / 400 := by
  have hyear := daysBeforeYear_eq y
  have hepoch := daysBeforeYear_eq 1970
  omega

/-- The days counted to a date are those between. -/
theorem dayNumber_eq {tm : Tm} {d : Date} (hyear : tm.year = d.year - 1900)
    (hmon : tm.mon = d.month - 1) (hday : tm.mday = d.day) : tm.dayNumber = d.dayNumber := by
  have hmonth := d.one_le_month
  have hmonth' := d.month_le
  have hfull : tm.fullYear = d.year := by
    rw [fullYear, hyear, hmon]
    omega
  have hmod : tm.mon % 12 = (d.month - 1 : ℕ) := by
    rw [hmon]
    omega
  have hstart := monthStarts_eq (isLeap d.year) (d.month - 1) (by omega)
  rw [Nat.sub_add_cancel hmonth] at hstart
  have hyears := daysBeforeYear_sub d.year
  have hlater : (1 < ((d.month - 1 : ℕ) : ℤ)) ↔ 1 < d.month - 1 := by omega
  simp only [dayNumber, Date.dayNumber, hfull, hmod, hday, Int.toNat_natCast, hlater]
  omega

end Tm

end Calendar

end PhineAf
