import Mathlib.Data.Int.Notation
import Mathlib.Tactic.Linarith

/-!
# Time stamps and calendar months

A time stamp counts microseconds from 1970-01-01 00:00 UTC. Adding a month
keeps the time of day and the day of the month, which is cut to the last day of
a shorter month.
-/

namespace Calendar

abbrev Timestamptz := ℤ

def second : ℤ := 1000000
def minute : ℤ := 60 * second
def hour : ℤ := 60 * minute
def day : ℤ := 24 * hour

/-- A day of the proleptic Gregorian calendar. -/
structure Date where
  year : ℤ
  month : ℤ
  day : ℤ
  deriving DecidableEq

/-- The date of the day that is `z` days after 1970-01-01. -/
def dateOfDays (z : ℤ) : Date :=
  -- Counting starts on 1 March of a year divisible by 400, so that leap days come last.
  let z := z + 719468
  let era := z / 146097
  let doe := z % 146097
  let yoe := (doe - doe / 1460 + doe / 36524 - doe / 146096) / 365
  let doy := doe - (365 * yoe + yoe / 4 - yoe / 100)
  let mp := (5 * doy + 2) / 153
  let m := if mp < 10 then mp + 3 else mp - 9
  { year := yoe + era * 400 + (if m ≤ 2 then 1 else 0)
    month := m
    day := doy - (153 * mp + 2) / 5 + 1 }

/-- The number of days from 1970-01-01 to the date. -/
def daysOfDate (d : Date) : ℤ :=
  let y := if d.month ≤ 2 then d.year - 1 else d.year
  let yoe := y % 400
  let mp := if 2 < d.month then d.month - 3 else d.month + 9
  let doy := (153 * mp + 2) / 5 + d.day - 1
  y / 400 * 146097 + (yoe * 365 + yoe / 4 - yoe / 100 + doy) - 719468

def leap (year : ℤ) : Bool := year % 4 = 0 ∧ (year % 100 ≠ 0 ∨ year % 400 = 0)

def daysInMonth (year month : ℤ) : ℤ :=
  if month = 2 then (if leap year then 29 else 28)
  else if month = 4 ∨ month = 6 ∨ month = 9 ∨ month = 11 then 30
  else 31

/-- The date one month later. -/
def Date.nextMonth (d : Date) : Date :=
  let year := if d.month = 12 then d.year + 1 else d.year
  let month := if d.month = 12 then 1 else d.month + 1
  { year, month, day := min d.day (daysInMonth year month) }

/-- `t + INTERVAL '1 month'`. -/
def plusMonth (t : Timestamptz) : Timestamptz :=
  daysOfDate (dateOfDays (t / day)).nextMonth * day + t % day

/-- The year of the era and the day of that year, counted from March. -/
theorem yearOfEra_bounds {doe yoe : ℤ} (h0 : 0 ≤ doe) (h1 : doe < 146097)
    (hyoe : yoe = (doe - doe / 1460 + doe / 36524 - doe / 146096) / 365) :
    0 ≤ yoe ∧ yoe ≤ 399 ∧ 0 ≤ doe - (365 * yoe + yoe / 4 - yoe / 100) ∧
      doe - (365 * yoe + yoe / 4 - yoe / 100) ≤ 365 := by
  by_cases hlast : doe = 146096
  · rw [hyoe, hlast]
    decide
  have hera : doe / 146096 = 0 := by omega
  obtain ⟨f, r, hf, hr, rfl⟩ : ∃ f r, (0 ≤ f ∧ f ≤ 3) ∧ (0 ≤ r ∧ r < 36524) ∧
      doe = 36524 * f + r :=
    ⟨doe / 36524, doe % 36524, by omega, by omega, by omega⟩
  obtain ⟨k, s, hk, hs, rfl⟩ : ∃ k s, (0 ≤ k ∧ k ≤ 24) ∧ (0 ≤ s ∧ s ≤ 1460) ∧
      r = 1461 * k + s :=
    ⟨r / 1461, r % 1461, by omega, by omega, by omega⟩
  obtain ⟨u, hu, hcycle⟩ : ∃ u, u = (24 * f + k + s) / 1460 ∧
      (36524 * f + (1461 * k + s)) / 1460 = 25 * f + k + u := ⟨_, rfl, by omega⟩
  have hu₁ : u ≤ 1 := by omega
  obtain ⟨j, hj⟩ : ∃ j, j = (s - u) / 365 := ⟨_, rfl⟩
  have hj₀ : 0 ≤ j := by omega
  have hj₁ : j ≤ 3 := by omega
  have hcentury : (36524 * f + (1461 * k + s)) / 36524 = f := by omega
  have hyear : yoe = 100 * f + 4 * k + j := by
    rw [hyoe, hera, hcycle, hcentury]
    omega
  have h4 : yoe / 4 = 25 * f + k := by omega
  have h100 : yoe / 100 = f := by omega
  rw [h4, h100]
  omega

theorem daysInMonth_ge (year month : ℤ) : 28 ≤ daysInMonth year month := by
  unfold daysInMonth
  split
  · split <;> omega
  · split <;> omega

/-- The days up to a date of the year `yoe` of an era, where years begin in March. -/
theorem daysOfDate_march {era yoe month d : ℤ} (hyoe : 0 ≤ yoe ∧ yoe ≤ 399)
    (hm : 2 < month) : daysOfDate ⟨yoe + era * 400, month, d⟩ = era * 146097 +
      (yoe * 365 + yoe / 4 - yoe / 100 + ((153 * (month - 3) + 2) / 5 + d - 1)) - 719468 := by
  have hmod : (yoe + era * 400) % 400 = yoe := by omega
  have hdiv : (yoe + era * 400) / 400 = era := by omega
  simp only [daysOfDate, if_neg (not_le.mpr hm), if_pos hm, hmod, hdiv]

theorem daysOfDate_january {era yoe month d : ℤ} (hyoe : 0 ≤ yoe ∧ yoe ≤ 399)
    (hm : month ≤ 2) : daysOfDate ⟨yoe + era * 400 + 1, month, d⟩ = era * 146097 +
      (yoe * 365 + yoe / 4 - yoe / 100 + ((153 * (month + 9) + 2) / 5 + d - 1)) - 719468 := by
  have hyear : yoe + era * 400 + 1 - 1 = yoe + era * 400 := by omega
  have hmod : (yoe + era * 400) % 400 = yoe := by omega
  have hdiv : (yoe + era * 400) / 400 = era := by omega
  simp only [daysOfDate, if_pos hm, if_neg (not_lt.mpr hm), hyear, hmod, hdiv]

/-- A month later is not earlier. -/
theorem le_days_nextMonth (z : ℤ) : z ≤ daysOfDate (dateOfDays z).nextMonth := by
  obtain ⟨era, doe, hdoe, hz, hera, hmod⟩ : ∃ era doe, (0 ≤ doe ∧ doe < 146097) ∧
      z = era * 146097 + doe - 719468 ∧ (z + 719468) / 146097 = era ∧
      (z + 719468) % 146097 = doe :=
    ⟨(z + 719468) / 146097, (z + 719468) % 146097, by omega, by omega, rfl, rfl⟩
  obtain ⟨yoe, hyoe⟩ : ∃ yoe, yoe = (doe - doe / 1460 + doe / 36524 - doe / 146096) / 365 :=
    ⟨_, rfl⟩
  obtain ⟨hy₀, hy₁, hd₀, hd₁⟩ := yearOfEra_bounds hdoe.1 hdoe.2 hyoe
  obtain ⟨doy, hdoy⟩ : ∃ doy, doy = doe - (365 * yoe + yoe / 4 - yoe / 100) := ⟨_, rfl⟩
  rw [← hdoy] at hd₀ hd₁
  obtain ⟨mp, hmp⟩ : ∃ mp, mp = (5 * doy + 2) / 153 := ⟨_, rfl⟩
  obtain ⟨dom, hdom⟩ : ∃ dom, dom = doy - (153 * mp + 2) / 5 + 1 := ⟨_, rfl⟩
  have hmp₀ : 0 ≤ mp := by omega
  have hmp₁ : mp ≤ 11 := by omega
  have hdom₀ : 1 ≤ dom ∧ dom ≤ 31 := by omega
  have hdate : dateOfDays z = ⟨yoe + era * 400 + (if (if mp < 10 then mp + 3 else mp - 9) ≤ 2 then 1
      else 0), if mp < 10 then mp + 3 else mp - 9, dom⟩ := by
    simp only [dateOfDays, hera, hmod, ← hyoe, ← hdoy, ← hmp, ← hdom]
  rw [hdate]
  rcases lt_or_ge mp 9 with h9 | h9
  · -- March to November: the next month is in the same year.
    have hm : (if mp < 10 then mp + 3 else mp - 9) = mp + 3 := if_pos (by omega)
    rw [hm, if_neg (show ¬ mp + 3 ≤ 2 by omega), add_zero]
    simp only [Date.nextMonth, if_neg (show ¬ mp + 3 = 12 by omega)]
    rw [daysOfDate_march ⟨hy₀, hy₁⟩ (show 2 < mp + 3 + 1 by omega)]
    have := daysInMonth_ge (yoe + era * 400) (mp + 3 + 1)
    omega
  · obtain rfl | rfl | rfl : mp = 9 ∨ mp = 10 ∨ mp = 11 := by omega
    · -- December
      simp only [Date.nextMonth, show ((9 : ℤ) < 10) = True by simp, if_true,
        show ((9 : ℤ) + 3 ≤ 2) = False by simp, if_false, add_zero,
        show ((9 : ℤ) + 3 = 12) = True by simp]
      rw [daysOfDate_january ⟨hy₀, hy₁⟩ (by omega)]
      have := daysInMonth_ge (yoe + era * 400 + 1) 1
      omega
    · -- January
      simp only [Date.nextMonth, show ((10 : ℤ) < 10) = False by simp, if_false,
        show ((10 : ℤ) - 9 ≤ 2) = True by simp, if_true,
        show ((10 : ℤ) - 9 = 12) = False by simp]
      rw [daysOfDate_january ⟨hy₀, hy₁⟩ (by omega)]
      have := daysInMonth_ge (yoe + era * 400 + 1) (10 - 9 + 1)
      omega
    · -- February: the next month begins a year.
      simp only [Date.nextMonth, show ((11 : ℤ) < 10) = False by simp, if_false,
        show ((11 : ℤ) - 9 ≤ 2) = True by simp, if_true,
        show ((11 : ℤ) - 9 = 12) = False by simp]
      by_cases hlast : yoe = 399
      · have := daysInMonth_ge (0 + (era + 1) * 400) (11 - 9 + 1)
        rw [show yoe + era * 400 + 1 = 0 + (era + 1) * 400 by omega,
          daysOfDate_march ⟨le_refl _, by omega⟩ (show (2 : ℤ) < 11 - 9 + 1 by omega)]
        omega
      · have := daysInMonth_ge (yoe + 1 + era * 400) (11 - 9 + 1)
        rw [show yoe + era * 400 + 1 = (yoe + 1) + era * 400 by omega,
          daysOfDate_march ⟨by omega, by omega⟩ (show (2 : ℤ) < 11 - 9 + 1 by omega)]
        omega

/-- `t + INTERVAL '1 month'` is not before `t`. -/
theorem le_plusMonth (t : Timestamptz) : t ≤ plusMonth t := by
  have hdays := le_days_nextMonth (t / day)
  have hday : (0 : ℤ) ≤ day := by decide
  calc t = t / day * day + t % day := (Int.ediv_mul_add_emod t day).symm
    _ ≤ plusMonth t := by
      rw [plusMonth]
      have := mul_le_mul_of_nonneg_right hdays hday
      linarith

example : dateOfDays 19753 = { year := 2024, month := 1, day := 31 } ∧
    dateOfDays (plusMonth (19753 * day) / day) = { year := 2024, month := 2, day := 29 } := by
  decide

end Calendar
