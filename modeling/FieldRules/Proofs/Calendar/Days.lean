import FieldRules.Calendar.Instant
import Mathlib

/-!
# `Proofs.Calendar.Days` — every day has a date

A day is split into a cycle of four hundred years, a year of the cycle and a day of that year, each
year beginning with March. The year is found by counting days as if all years had 365 and taking the
leap days out before the division. That count never decreases from one day to the next, so it is
enough to know it on the first and the last day of each year. Months are a table of twelve.

## Contents
- **`yearOf`** and **`yearOf_spec`**, the year of a day of a cycle.
- **`monthOf_spec`**, the month of a day of a year.
- **`ofDay_eq`**, a date in these terms, with **`valid_ofDay`**, **`toDay_ofDay`** and
  **`year_ofDay_bounds`**.
-/

namespace FieldRules.Calendar.Date

/-! ## Years of a cycle -/

/-- The year of a cycle that a day of the cycle lies in. -/
def yearOf (dayOfCycle : Nat) : Nat :=
  (dayOfCycle - dayOfCycle / 1460 + dayOfCycle / 36524 - dayOfCycle / 146096) / 365

/-- Whether a year of a cycle, which begins with March, ends with a leap day. -/
def endsLeap (yearOfCycle : Nat) : Bool :=
  isLeap (yearOfCycle + 1 : Nat)

/-- The days of a year of a cycle. -/
def yearDays (yearOfCycle : Nat) : Nat :=
  if endsLeap yearOfCycle then 366 else 365

theorem yearDays_le (y : Nat) : yearDays y ≤ 366 := by
  unfold yearDays
  split <;> omega

/-- The first and the last day of each year are counted to it, and the next year follows. -/
theorem yearOf_table : ∀ y < 400,
    yearOf (daysBeforeYear y) = y ∧ yearOf (daysBeforeYear y + yearDays y - 1) = y ∧
      (daysBeforeYear y + yearDays y = if y = 399 then cycleDays else daysBeforeYear (y + 1)) := by
  decide +kernel

/-- Later days do not lie in earlier years. -/
theorem yearOf_mono : Monotone yearOf := by
  refine monotone_nat_of_le_succ fun n => ?_
  unfold yearOf
  refine Nat.div_le_div_right ?_
  omega

theorem yearOf_lt {n : Nat} (h : n < cycleDays) : yearOf n < 400 := by
  unfold yearOf
  unfold cycleDays at h
  omega

/-- **A day of a cycle lies in its year:** not before the first day of the year and not after the
last. -/
theorem yearOf_spec {n : Nat} (h : n < cycleDays) :
    daysBeforeYear (yearOf n) ≤ n ∧ n < daysBeforeYear (yearOf n) + yearDays (yearOf n) := by
  have hy := yearOf_lt h
  obtain ⟨-, -, hnext⟩ := yearOf_table (yearOf n) hy
  constructor
  · by_contra hbefore
    -- a day before the first one is at most the last day of the year before
    obtain ⟨y, hpred⟩ : ∃ y, yearOf n = y + 1 := by
      refine ⟨yearOf n - 1, ?_⟩
      rcases Nat.eq_zero_or_pos (yearOf n) with hzero | hpos
      · rw [hzero] at hbefore
        simp [daysBeforeYear] at hbefore
      · omega
    obtain ⟨-, hlast, hnext⟩ := yearOf_table y (by omega)
    rw [if_neg (by omega), ← hpred] at hnext
    have hle := yearOf_mono (show n ≤ daysBeforeYear y + yearDays y - 1 by omega)
    omega
  · by_contra hafter
    by_cases hend : yearOf n = 399
    · rw [if_pos hend] at hnext
      omega
    · rw [if_neg hend] at hnext
      obtain ⟨hfirst, -, -⟩ := yearOf_table (yearOf n + 1) (by omega)
      have hle := yearOf_mono (show daysBeforeYear (yearOf n + 1) ≤ n by omega)
      omega

/-! ## Months of a year -/

/-- The month of a year that a day of the year lies in; March is month nought. -/
def monthOf (dayOfYear : Nat) : Nat :=
  (5 * dayOfYear + 2) / 153

/-- A day of a year lies in its month, which has as many days as the month of the calendar. The leap
day is the last one of all. -/
theorem monthOf_spec : ∀ n < 366,
    monthOf n < 12 ∧ daysBeforeMonth (monthOf n) ≤ n ∧
      (monthOf n < 10 →
        n - daysBeforeMonth (monthOf n) + 1 ≤ daysInMonth 1 (monthOf n + 3)) ∧
      (monthOf n = 10 → n - daysBeforeMonth (monthOf n) + 1 ≤ 31) ∧
      (monthOf n = 11 → n - daysBeforeMonth (monthOf n) + 1 ≤ if n = 365 then 29 else 28) := by
  decide +kernel

/-- Only February depends on the year. -/
theorem daysInMonth_of_ne {month : Nat} (h : month ≠ 2) (year year' : Int) :
    daysInMonth year month = daysInMonth year' month := by
  unfold daysInMonth
  rw [if_neg h, if_neg h]

/-! ## Dates -/

/-- The parts that the date of a day is made of: the cycle, the year of the cycle and the day of
that year. -/
theorem ofDay_eq (day : Int) :
    ∃ cycle : Int, ∃ y r : Nat, y < 400 ∧ r < yearDays y ∧
      day = origin + cycle * cycleDays + (daysBeforeYear y + r : Nat) ∧
      ofDay day =
        { year := if monthOf r < 10 then cycle * 400 + y else cycle * 400 + y + 1
          month := if monthOf r < 10 then monthOf r + 3 else monthOf r - 9
          day := r - daysBeforeMonth (monthOf r) + 1 } := by
  have hpos : (0 : Int) < cycleDays := by decide
  have hlt : ((day - origin) % cycleDays).toNat < cycleDays := by
    have := Int.emod_lt_of_pos (day - origin) hpos
    omega
  have hnonneg := Int.emod_nonneg (day - origin) hpos.ne'
  have hsplit := Int.emod_add_mul_ediv (day - origin) cycleDays
  obtain ⟨hfirst, hlast⟩ := yearOf_spec hlt
  refine ⟨(day - origin) / cycleDays, yearOf ((day - origin) % cycleDays).toNat,
    ((day - origin) % cycleDays).toNat - daysBeforeYear (yearOf ((day - origin) % cycleDays).toNat),
    yearOf_lt hlt, by omega, ?_, rfl⟩
  rw [Nat.add_sub_cancel' hfirst, Int.toNat_of_nonneg hnonneg, mul_comm]
  omega

/-- Leap years recur in every cycle. -/
theorem isLeap_cycle (cycle : Int) (y : Nat) :
    isLeap (cycle * 400 + y + 1) = endsLeap y := by
  unfold endsLeap isLeap
  have hfour : (cycle * 400 + y + 1) % 4 = ((y + 1 : Nat) : Int) % 4 := by omega
  have hcentury : (cycle * 400 + y + 1) % 100 = ((y + 1 : Nat) : Int) % 100 := by omega
  have hcycle : (cycle * 400 + y + 1) % 400 = ((y + 1 : Nat) : Int) % 400 := by omega
  rw [hfour, hcentury, hcycle]

/-- **The date of a day exists.** -/
theorem valid_ofDay (day : Int) : (ofDay day).Valid := by
  obtain ⟨cycle, y, r, hy, hr, -, hdate⟩ := ofDay_eq day
  have hdays := yearDays_le y
  obtain ⟨hmonth, -, hbefore, hjanuary, hfebruary⟩ := monthOf_spec r (by omega)
  rw [hdate]
  by_cases hten : monthOf r < 10
  · have hlast := hbefore hten
    rw [daysInMonth_of_ne (by omega) 1 (cycle * 400 + y)] at hlast
    rw [if_pos hten, if_pos hten]
    exact ⟨by simp, by simpa using by omega, by simp, hlast⟩
  · rw [if_neg hten, if_neg hten]
    rcases (by omega : monthOf r = 10 ∨ monthOf r = 11) with hm | hm
    · have hlast := hjanuary hm
      rw [hm] at hlast ⊢
      exact ⟨by simp, by simp, by simp, hlast⟩
    · have hlast := hfebruary hm
      rw [hm] at hlast ⊢
      refine ⟨by simp, by simp, by simp, hlast.trans ?_⟩
      show (if r = 365 then 29 else 28) ≤ if isLeap (cycle * 400 + y + 1) then 29 else 28
      rw [isLeap_cycle]
      -- the year has a day 365 only if it ends with a leap day
      unfold yearDays at hr
      split at hr
      · next hleap =>
          rw [if_pos hleap]
          split <;> omega
      · rw [if_neg (by omega)]
        split <;> omega

/-- **The date of a day has the number of the day.** -/
theorem toDay_ofDay (day : Int) : (ofDay day).toDay = day := by
  obtain ⟨cycle, y, r, hy, hr, hday, hdate⟩ := ofDay_eq day
  have hdays := yearDays_le y
  obtain ⟨hmonth, hle, -⟩ := monthOf_spec r (by omega)
  have hyear : (cycle * 400 + y) / 400 = cycle := by omega
  have hrest : ((cycle * 400 + y) % 400).toNat = y := by omega
  rw [hdate]
  unfold toDay
  by_cases hten : monthOf r < 10
  · rw [if_pos hten, if_pos hten]
    have hlate : ¬monthOf r + 3 ≤ 2 := by omega
    simp only [if_neg hlate, Nat.add_sub_cancel, hyear, hrest]
    omega
  · rw [if_neg hten, if_neg hten]
    have hearly : monthOf r - 9 ≤ 2 := by omega
    simp only [if_pos hearly, add_sub_cancel_right, Nat.sub_add_cancel (by omega : 9 ≤ monthOf r),
      hyear, hrest]
    omega

/-- Later years begin later. -/
theorem daysBeforeYear_mono : Monotone daysBeforeYear := by
  refine monotone_nat_of_le_succ fun n => ?_
  unfold daysBeforeYear
  omega

/-- Days of the calendar have years of the calendar. -/
theorem year_ofDay_bounds {day : Int} (hlo : earliest ≤ day * 86400)
    (hhi : day * 86400 ≤ latest) :
    -262143 ≤ (ofDay day).year ∧ (ofDay day).year ≤ 262142 := by
  obtain ⟨cycle, y, r, hy, hr, hday, hdate⟩ := ofDay_eq day
  -- the calendar begins late in year 256 of a cycle and ends in year 142 of another
  have hfirst (h : y ≤ 255) : daysBeforeYear y ≤ 93136 := daysBeforeYear_mono h
  have hfirst' (h : y ≤ 256) : daysBeforeYear y ≤ 93502 := daysBeforeYear_mono h
  have hlast (h : 142 ≤ y) : 51864 ≤ daysBeforeYear y := daysBeforeYear_mono h
  have hlast' (h : 143 ≤ y) : 52229 ≤ daysBeforeYear y := daysBeforeYear_mono h
  have hwithin : daysBeforeYear y ≤ 145731 := daysBeforeYear_mono (Nat.le_of_lt_succ hy)
  have hrest : r < 366 := hr.trans_le (yearDays_le y)
  unfold earliest at hlo
  unfold latest at hhi
  unfold origin cycleDays at hday
  rw [hdate]
  unfold monthOf
  dsimp only
  split <;> omega

end FieldRules.Calendar.Date
