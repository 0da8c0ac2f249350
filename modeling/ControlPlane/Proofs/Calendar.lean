/-
The date of a day number.

A year that is counted from March ends with its leap day, if it has one, so that each month starts
on the same day of every year.  Within an era the century of a day comes first, and with it the year
(`Date.yearOfEra_div`).  So the date of every day number is valid and has that number
(`Date.dayNumber_ofDayNumber`, `Date.isValid_ofDayNumber`).
-/
import ControlPlane.Time.Calendar
import Mathlib.Tactic.IntervalCases

namespace ControlPlane
namespace Time
namespace Date

variable {n day year : Int} {dayOfYear : Nat}

/-! ## Days of years from March -/

/-- The days before a year of an era. -/
def daysBefore (year : Int) : Int := 365 * year + year / 4 - year / 100

/-- Whether a day number counts a day of a year, whose first day is the first of March. -/
structure Counts (n year : Int) (dayOfYear : Nat) : Prop where
  eq : n + 719468 = daysBefore year + year / 400 + dayOfYear
  /-- There is a last day more where the calendar year in which the year ends is a leap year. -/
  le : dayOfYear ≤ 364 ∨ dayOfYear = 365 ∧ isLeapYear (year + 1) = true

/-- The date of a day of a year from March. -/
def ofDayOfYear (year : Int) (dayOfYear : Nat) : Date :=
  let month := (5 * dayOfYear + 2) / 153
  let day := dayOfYear - (153 * month + 2) / 5 + 1
  if month < 10 then ⟨year, month + 3, day⟩ else ⟨year + 1, month - 9, day⟩

theorem isLeapYear_iff :
    isLeapYear year = true ↔ year % 4 = 0 ∧ (year % 100 ≠ 0 ∨ year % 400 = 0) := by
  simp [isLeapYear]

/-- Eras are equally long. -/
theorem daysBefore_era (year : Int) :
    daysBefore year + year / 400 = year / 400 * 146097 + daysBefore (year % 400) := by
  have hfour : year / 4 = year / 400 * 100 + year % 400 / 4 := by omega
  have hcentury : year / 100 = year / 400 * 4 + year % 400 / 100 := by omega
  simp only [daysBefore]
  omega

/-- The date with the month and the day as integers. -/
theorem ofDayOfYear_eq (year : Int) (hle : dayOfYear ≤ 365) :
    let month : Int := (5 * dayOfYear + 2) / 153
    let calendarMonth := if month < 10 then month + 3 else month - 9
    ofDayOfYear year dayOfYear =
      ⟨if calendarMonth ≤ 2 then year + 1 else year, calendarMonth.toNat,
        (dayOfYear - (153 * month + 2) / 5 + 1).toNat⟩ := by
  obtain ⟨month, hmonth⟩ : ∃ month, month = (5 * dayOfYear + 2) / 153 := ⟨_, rfl⟩
  have hcast : (5 * (dayOfYear : Int) + 2) / 153 = month := by omega
  have hlast : month ≤ 11 := by omega
  have hday : (153 * month + 2) / 5 ≤ dayOfYear := by omega
  simp only [ofDayOfYear, hcast, ← hmonth]
  by_cases hspring : month < 10
  · rw [if_pos hspring, if_pos (show (month : Int) < 10 by omega),
      if_neg (show ¬(month : Int) + 3 ≤ 2 by omega), Date.mk.injEq]
    omega
  · rw [if_neg hspring, if_neg (show ¬(month : Int) < 10 by omega),
      if_pos (show (month : Int) - 9 ≤ 2 by omega), Date.mk.injEq]
    omega

theorem dayNumber_ofDayOfYear (h : Counts n year dayOfYear) :
    (ofDayOfYear year dayOfYear).dayNumber = n := by
  obtain ⟨heq, hle⟩ := h
  rw [daysBefore_era, daysBefore] at heq
  obtain ⟨month, hmonth⟩ : ∃ month, month = (5 * dayOfYear + 2) / 153 := ⟨_, rfl⟩
  have hlast : month ≤ 11 := by omega
  have hday : (153 * month + 2) / 5 ≤ dayOfYear := by omega
  simp only [ofDayOfYear, ← hmonth]
  split
  next =>
    have hmarch : ((month + 3 : Nat) + 9 : Int) % 12 = month := by omega
    simp only [dayNumber, if_neg (show ¬month + 3 ≤ 2 by omega), hmarch]
    omega
  next =>
    have hmarch : ((month - 9 : Nat) + 9 : Int) % 12 = month := by omega
    simp only [dayNumber, if_pos (show month - 9 ≤ 2 by omega), Int.add_sub_cancel, hmarch]
    omega

/-- A month from March to December is as long as it takes to the next one. -/
theorem daysInMonth_of_lt {month : Nat} (h : month < 10) (year : Int) :
    daysInMonth year (month + 3) = (153 * (month + 1) + 2) / 5 - (153 * month + 2) / 5 := by
  interval_cases month <;> rfl

theorem daysInMonth_le (year : Int) (month : Nat) : daysInMonth year month ≤ 31 := by
  unfold daysInMonth
  repeat' split
  all_goals decide

theorem isValid_iff {d : Date} : d.isValid = true ↔
    1 ≤ d.month ∧ d.month ≤ 12 ∧ 1 ≤ d.day ∧ d.day ≤ daysInMonth d.year d.month := by
  simp only [isValid, Bool.and_eq_true, decide_eq_true_eq, and_assoc]

theorem isValid_ofDayOfYear (h : Counts n year dayOfYear) :
    (ofDayOfYear year dayOfYear).isValid = true := by
  have hle := h.le
  obtain ⟨month, hmonth⟩ : ∃ month, month = (5 * dayOfYear + 2) / 153 := ⟨_, rfl⟩
  have hlast : month ≤ 11 := by omega
  simp only [ofDayOfYear, ← hmonth]
  split
  next =>
    rw [isValid_iff, daysInMonth_of_lt ‹_›]
    dsimp only
    omega
  next =>
    have hwinter : month = 10 ∨ month = 11 := by omega
    rw [isValid_iff]
    dsimp only
    rcases hwinter with rfl | rfl
    · have hjanuary : daysInMonth (year + 1) (10 - 9) = 31 := rfl
      rw [hjanuary]
      omega
    · have hfebruary : daysInMonth (year + 1) (11 - 9) = if isLeapYear (year + 1) then 29 else 28 :=
        rfl
      rw [hfebruary]
      rcases hle with hle | ⟨rfl, hleap⟩
      · split <;> omega
      · rw [if_pos hleap]
        omega

/-! ## The year of a day -/

/-- The centuries and the groups of four years before a day that is not the last of its era. -/
theorem yearOfEra_div (hstart : 0 ≤ day) (hend : day < 146096)
    (hyear : year = (day - day / 1460 + day / 36524 - day / 146096) / 365) :
    year / 100 = day / 36524 ∧ (year / 4 = day / 1460 ∨ year / 4 = day / 1460 - 1) := by
  have hcentury : day / 36524 = 0 ∨ day / 36524 = 1 ∨ day / 36524 = 2 ∨ day / 36524 = 3 := by
    omega
  have hera : day / 146096 = 0 := by omega
  rw [hera] at hyear
  rcases hcentury with h | h | h | h <;> rw [h] at hyear ⊢ <;> omega

/-- The year of a day in its era, and the day of that year. -/
theorem yearOfEra_cases (hstart : 0 ≤ day) (hend : day < 146097)
    (hyear : year = (day - day / 1460 + day / 36524 - day / 146096) / 365) :
    0 ≤ year ∧ year < 400 ∧ 0 ≤ day - daysBefore year ∧
      (day - daysBefore year ≤ 364 ∨
        day - daysBefore year = 365 ∧ isLeapYear (year + 1) = true) := by
  -- The last day of an era is a leap day that the groups of four years do not reach.
  by_cases hlast : day = 146096
  · subst hlast
    subst hyear
    decide
  obtain ⟨hcentury, hfour⟩ := yearOfEra_div hstart (by omega) hyear
  have hera : day / 146096 = 0 := by omega
  rw [hera, ← hcentury] at hyear
  have hleap : year % 4 = 3 ∨ year % 4 ≤ 2 := by omega
  simp only [isLeapYear_iff, daysBefore]
  refine ⟨by omega, by omega, by omega, ?_⟩
  rcases hleap with h | h <;> rcases hfour with h' | h' <;> omega

/-- Every day number counts a day of some year. -/
theorem ofDayNumber_cases (n : Int) :
    ∃ year dayOfYear, Counts n year dayOfYear ∧ ofDayNumber n = ofDayOfYear year dayOfYear := by
  obtain ⟨era, hera⟩ : ∃ era, era = (n + 719468) / 146097 := ⟨_, rfl⟩
  obtain ⟨day, hday⟩ : ∃ day, day = (n + 719468) % 146097 := ⟨_, rfl⟩
  obtain ⟨year, hyear⟩ :
      ∃ year, year = (day - day / 1460 + day / 36524 - day / 146096) / 365 := ⟨_, rfl⟩
  have hstart : 0 ≤ day := by omega
  have hend : day < 146097 := by omega
  obtain ⟨hfirst, hlast, hnonneg, hle⟩ := yearOfEra_cases hstart hend hyear
  obtain ⟨dayOfYear, hdayOfYear⟩ := Int.eq_ofNat_of_zero_le hnonneg
  rw [hdayOfYear] at hle
  have hyears : (year + era * 400) / 400 = era ∧ (year + era * 400) % 400 = year := by omega
  refine ⟨year + era * 400, dayOfYear, ⟨?_, ?_⟩, ?_⟩
  · rw [daysBefore_era, hyears.1, hyears.2]
    omega
  · rw [isLeapYear_iff] at hle ⊢
    omega
  · simp only [ofDayNumber, ← hera, ← hday, ← hyear]
    rw [daysBefore] at hdayOfYear
    rw [ofDayOfYear_eq _ (by omega), ← hdayOfYear]

/-- Every day number is that of its date. -/
theorem dayNumber_ofDayNumber (n : Int) : (ofDayNumber n).dayNumber = n := by
  obtain ⟨year, dayOfYear, hcounts, hdate⟩ := ofDayNumber_cases n
  rw [hdate, dayNumber_ofDayOfYear hcounts]

theorem isValid_ofDayNumber (n : Int) : (ofDayNumber n).isValid = true := by
  obtain ⟨year, dayOfYear, hcounts, hdate⟩ := ofDayNumber_cases n
  rw [hdate, isValid_ofDayOfYear hcounts]

end Date
end Time
end ControlPlane
