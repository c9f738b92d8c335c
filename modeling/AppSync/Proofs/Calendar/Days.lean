import AppSync.Calendar.Basic
import Mathlib.Order.Basic

/-!
Days in a row: dates and their numbers correspond one to one, over leap years and the lengths of
months.
-/

namespace AppSync.Calendar

/-- A count that falls into a unit, when the counts at which units begin are given. -/
structure FallsIn (begins : Nat → Nat) (count unit : Nat) : Prop where
  begun : begins unit < count
  not_over : count ≤ begins (unit + 1)

section Units

variable {begins : Nat → Nat} {count unit other : Nat}

/-- A count falls into one unit only. -/
theorem FallsIn.unique (mono : ∀ {early late : Nat}, early ≤ late → begins early ≤ begins late)
    (falls : FallsIn begins count unit) (also : FallsIn begins count other) : unit = other := by
  -- The earlier of two units would be over before the later one begins.
  have passed {early late : Nat} (first : FallsIn begins count early)
      (second : FallsIn begins count late) : ¬early < late := fun before =>
    absurd (Nat.le_trans first.not_over (mono before)) (Nat.not_le.mpr second.begun)
  exact Nat.le_antisymm (Nat.not_lt.mp (passed also falls)) (Nat.not_lt.mp (passed falls also))

/-- The search for the last unit, from a given one on, that begins before a count. -/
def lastBefore (begins : Nat → Nat) : Nat → Nat → Nat → Nat
  | 0, _, unit => unit
  | fuel + 1, count, unit =>
    if begins (unit + 1) < count then lastBefore begins fuel count (unit + 1) else unit

/-- The search ends at the unit into which the count falls, which lies in its reach. -/
theorem fallsIn_lastBefore {fuel : Nat} (begun : begins unit < count)
    (reached : count ≤ begins (unit + fuel + 1)) :
    FallsIn begins count (lastBefore begins fuel count unit) ∧
      unit ≤ lastBefore begins fuel count unit ∧
      lastBefore begins fuel count unit ≤ unit + fuel := by
  -- Each step goes to a unit that has begun, with one unit less to reach.
  induction fuel generalizing unit with
  | zero => exact ⟨⟨begun, reached⟩, Nat.le_refl _, Nat.le_refl _⟩
  | succ fuel ih =>
    rw [lastBefore]
    split
    · rename_i next
      rw [Nat.add_comm fuel 1, ← Nat.add_assoc unit 1 fuel] at reached
      obtain ⟨falls, above, below⟩ := ih next reached
      exact ⟨falls, by omega, by omega⟩
    · rename_i stops
      exact ⟨⟨begun, Nat.not_lt.mp stops⟩, Nat.le_refl _, by omega⟩

end Units

/-- The search for a year is one for a unit. -/
theorem yearFrom_eq (fuel number year : Nat) :
    yearFrom fuel number year = lastBefore daysBeforeYear fuel number year := by
  induction fuel generalizing year with
  | zero => rfl
  | succ fuel ih => rw [yearFrom, lastBefore, ih]

/-- The search for a month is one for a unit of its year. -/
theorem monthFrom_eq (year fuel dayOfYear month : Nat) :
    monthFrom year fuel dayOfYear month =
      lastBefore (daysBeforeMonth year) fuel dayOfYear month := by
  induction fuel generalizing month with
  | zero => rfl
  | succ fuel ih => rw [monthFrom, lastBefore, ih]

/-- The length of a year. -/
def daysInYear (year : Nat) : Nat :=
  if isLeapYear year then 366 else 365

/-- Days before a year, by the years that are past: leap days are added, less those of centuries. -/
theorem daysBeforeYear_past (past : Nat) :
    daysBeforeYear (past + 1) + past / 100 = past * 365 + past / 4 + past / 400 := by
  have fewer : past / 100 ≤ past / 4 := Nat.div_le_div_left (by decide) (by decide)
  rw [daysBeforeYear, Nat.add_sub_cancel]
  generalize past / 4 = fourths, past / 100 = centuries at *
  omega

/-- A leap year is divisible by 4, but not by 100 unless by 400. -/
theorem isLeapYear_iff (year : Nat) :
    isLeapYear year = true ↔ 4 ∣ year ∧ (100 ∣ year → 400 ∣ year) := by
  simp only [isLeapYear, Bool.and_eq_true, Bool.or_eq_true, decide_eq_true_eq, ne_eq,
    Nat.dvd_iff_mod_eq_zero, imp_iff_not_or]

/-- A year begins when the one before it is over. -/
theorem daysBeforeYear_succ {year : Nat} (positive : 1 ≤ year) :
    daysBeforeYear (year + 1) = daysBeforeYear year + daysInYear year := by
  obtain ⟨past, rfl⟩ := Nat.exists_eq_add_of_le' positive
  have before := daysBeforeYear_past past
  have after := daysBeforeYear_past (past + 1)
  rw [Nat.succ_div, Nat.succ_div, Nat.succ_div] at after
  have by_four : 100 ∣ past + 1 → 4 ∣ past + 1 := Nat.dvd_trans (by decide)
  have by_hundred : 400 ∣ past + 1 → 100 ∣ past + 1 := Nat.dvd_trans (by decide)
  unfold daysInYear
  simp only [isLeapYear_iff]
  -- The year is counted once more for each of the numbers that it is divisible by.
  generalize daysBeforeYear (past + 1) = days, daysBeforeYear (past + 1 + 1) = total,
    past / 4 = fourths, past / 100 = centuries, past / 400 = eras at before after ⊢
  by_cases four : 4 ∣ past + 1 <;> by_cases century : 100 ∣ past + 1 <;>
    by_cases era : 400 ∣ past + 1 <;> simp_all <;> omega

/-- Years that come later begin later. -/
theorem daysBeforeYear_mono {early late : Nat} (ordered : early ≤ late) :
    daysBeforeYear early ≤ daysBeforeYear late := by
  induction ordered with
  | refl => exact Nat.le_refl _
  | step _ ih =>
    rename_i year _
    refine Nat.le_trans ih ?_
    rcases Nat.eq_zero_or_pos year with rfl | positive
    · exact Nat.le_refl _
    · rw [Nat.succ_eq_add_one, daysBeforeYear_succ positive]
      exact Nat.le_add_right _ _

section Months

variable {year month : Nat}

/-- A month begins when the one before it is over. -/
theorem daysBeforeMonth_succ (positive : 1 ≤ month) :
    daysBeforeMonth year (month + 1) = daysBeforeMonth year month + daysInMonth year month := by
  obtain ⟨before, rfl⟩ := Nat.exists_eq_add_of_le' positive
  rfl

/-- Months that come later begin later. -/
theorem daysBeforeMonth_mono {early late : Nat} (ordered : early ≤ late) :
    daysBeforeMonth year early ≤ daysBeforeMonth year late := by
  induction ordered with
  | refl => exact Nat.le_refl _
  | step _ ih =>
    rename_i month _
    refine Nat.le_trans ih ?_
    rcases Nat.eq_zero_or_pos month with rfl | positive
    · exact Nat.le_refl _
    · rw [Nat.succ_eq_add_one, daysBeforeMonth_succ positive]
      exact Nat.le_add_right _ _

/-- The months of a year fill it. -/
theorem daysBeforeMonth_thirteen (year : Nat) : daysBeforeMonth year 13 = daysInYear year := by
  unfold daysInYear
  simp only [daysBeforeMonth, daysInMonth]
  cases isLeapYear year <;> rfl

end Months

/-- A date whose month is one of its year, and whose day is one of its month. -/
structure IsProper (date : Date) : Prop where
  year_pos : 1 ≤ date.year
  month_pos : 1 ≤ date.month
  month_le : date.month ≤ 12
  day_pos : 1 ≤ date.day
  day_le : date.day ≤ daysInMonth date.year date.month

/-- The dates without fault are the proper ones up to the last year. -/
theorem dateFault?_eq_none_iff {date : Date} :
    dateFault? date = none ↔ IsProper date ∧ date.year ≤ lastYear := by
  unfold dateFault?
  constructor
  · intro faultless
    -- Each bound that is passed is a fault of its own.
    split at faultless
    · cases faultless
    split at faultless
    · cases faultless
    split at faultless
    · cases faultless
    exact ⟨⟨by omega, by omega, by omega, by omega, by omega⟩, by omega⟩
  · rintro ⟨⟨year_pos, month_pos, month_le, day_pos, day_le⟩, year_le⟩
    rw [if_neg (by omega), if_neg (by omega), if_neg (by omega)]

/-- The number of a date in its year. -/
def dayOfYear (date : Date) : Nat :=
  daysBeforeMonth date.year date.month + date.day

/-- The number of a date goes over the days of past years to that in its own. -/
theorem dayNumber_eq (date : Date) :
    dayNumber date = daysBeforeYear date.year + dayOfYear date := by
  rw [dayNumber, dayOfYear, Nat.add_assoc]

namespace IsProper

variable {date other : Date}

/-- A date falls into its month. -/
theorem fallsIn_month (proper : IsProper date) :
    FallsIn (daysBeforeMonth date.year) (dayOfYear date) date.month := by
  have positive := proper.day_pos
  have fits := proper.day_le
  refine ⟨by unfold dayOfYear; omega, ?_⟩
  rw [daysBeforeMonth_succ proper.month_pos]
  unfold dayOfYear
  omega

/-- A date falls into its year. -/
theorem fallsIn_year (proper : IsProper date) :
    FallsIn daysBeforeYear (dayNumber date) date.year := by
  have month := proper.fallsIn_month
  -- The month into which the day falls is over when the year is.
  have within : daysBeforeMonth date.year (date.month + 1) ≤ daysInYear date.year := by
    rw [← daysBeforeMonth_thirteen]
    exact daysBeforeMonth_mono (Nat.succ_le_succ proper.month_le)
  have begun := month.begun
  have not_over := month.not_over
  rw [dayNumber_eq]
  refine ⟨by omega, ?_⟩
  rw [daysBeforeYear_succ proper.year_pos]
  omega

/-- A date is determined by its number. -/
theorem eq_of_dayNumber_eq (proper : IsProper date) (also : IsProper other)
    (same : dayNumber date = dayNumber other) : date = other := by
  have also_year : FallsIn daysBeforeYear (dayNumber date) other.year := by
    rw [same]
    exact also.fallsIn_year
  have year : date.year = other.year := proper.fallsIn_year.unique daysBeforeYear_mono also_year
  -- In the same year the numbers within it are the same, and so are the months.
  have within : dayOfYear date = dayOfYear other := by
    rw [dayNumber_eq, dayNumber_eq, year] at same
    exact Nat.add_left_cancel same
  have also_month : FallsIn (daysBeforeMonth date.year) (dayOfYear date) other.month := by
    rw [within, year]
    exact also.fallsIn_month
  have month : date.month = other.month :=
    proper.fallsIn_month.unique daysBeforeMonth_mono also_month
  have day : date.day = other.day := by
    rw [dayOfYear, dayOfYear, year, month] at within
    exact Nat.add_left_cancel within
  cases date
  cases other
  simp_all

end IsProper

/-- The day after a date. -/
def nextDay (date : Date) : Date :=
  if date.day < daysInMonth date.year date.month then { date with day := date.day + 1 }
  else if date.month < 12 then ⟨date.year, date.month + 1, 1⟩
  else ⟨date.year + 1, 1, 1⟩

/-- Numbers count the days one by one. -/
theorem dayNumber_nextDay {date : Date} (proper : IsProper date) :
    dayNumber (nextDay date) = dayNumber date + 1 := by
  have fits := proper.day_le
  unfold nextDay
  split
  · rfl
  · -- The last day of a month is followed by the first of the next one.
    rename_i last
    have ends : dayOfYear date = daysBeforeMonth date.year (date.month + 1) := by
      rw [daysBeforeMonth_succ proper.month_pos, dayOfYear]
      omega
    rw [dayNumber_eq date, ends]
    split
    · rw [dayNumber, Nat.add_assoc]
    · rename_i december
      have month : date.month = 12 := by
        have := proper.month_le
        omega
      rw [month, daysBeforeMonth_thirteen, ← daysBeforeYear_succ proper.year_pos]
      rfl

/-- The year that is found is the one into which the number falls. -/
theorem fallsIn_yearFrom {number : Nat} (positive : 1 ≤ number) :
    FallsIn daysBeforeYear number (yearFrom (number / 366 + 1) number ((number - 1) / 366 + 1)) ∧
      1 ≤ yearFrom (number / 366 + 1) number ((number - 1) / 366 + 1) := by
  -- The search starts low enough and reaches far enough.
  have begun : daysBeforeYear ((number - 1) / 366 + 1) < number := by
    have past := daysBeforeYear_past ((number - 1) / 366)
    omega
  have reached : number ≤
      daysBeforeYear ((number - 1) / 366 + 1 + (number / 366 + 1) + 1) := by
    have past := daysBeforeYear_past ((number - 1) / 366 + 1 + (number / 366 + 1))
    omega
  obtain ⟨falls, first_le, -⟩ := fallsIn_lastBefore begun reached
  rw [yearFrom_eq]
  exact ⟨falls, by omega⟩

/-- The month that is found is the one of the year into which the day falls. -/
theorem fallsIn_monthFrom {year day : Nat} (positive : 1 ≤ day)
    (within : day ≤ daysBeforeMonth year 13) :
    FallsIn (daysBeforeMonth year) day (monthFrom year 11 day 1) ∧
      1 ≤ monthFrom year 11 day 1 ∧ monthFrom year 11 day 1 ≤ 12 := by
  -- No day is before January, and none is behind December.
  have begun : daysBeforeMonth year 1 < day := by
    rw [show daysBeforeMonth year 1 = 0 from rfl]
    omega
  rw [monthFrom_eq]
  exact fallsIn_lastBefore begun within

/-- The date with a number has that number. -/
theorem ofDayNumber_spec {number : Nat} (positive : 1 ≤ number) :
    IsProper (ofDayNumber number) ∧ dayNumber (ofDayNumber number) = number := by
  obtain ⟨year_falls, year_pos⟩ := fallsIn_yearFrom positive
  generalize found : yearFrom (number / 366 + 1) number ((number - 1) / 366 + 1) = year
    at year_falls year_pos
  have year_begun := year_falls.begun
  -- What is left of the number is a day of that year.
  have within : number - daysBeforeYear year ≤ daysBeforeMonth year 13 := by
    have passed := year_falls.not_over
    rw [daysBeforeYear_succ year_pos, ← daysBeforeMonth_thirteen] at passed
    omega
  obtain ⟨month_falls, month_pos, month_le⟩ := fallsIn_monthFrom (by omega) within
  generalize searched : monthFrom year 11 (number - daysBeforeYear year) 1 = month
    at month_falls month_pos month_le
  have date : ofDayNumber number = ⟨year, month,
      number - daysBeforeYear year - daysBeforeMonth year month⟩ := by
    unfold ofDayNumber
    simp only [found, searched]
  -- And what is left of that is a day of the month.
  have begun := month_falls.begun
  have not_over := month_falls.not_over
  rw [daysBeforeMonth_succ month_pos] at not_over
  rw [date]
  refine ⟨⟨year_pos, month_pos, month_le, ?_, ?_⟩, ?_⟩
  · dsimp only
    omega
  · dsimp only
    omega
  · rw [dayNumber]
    dsimp only
    omega

end AppSync.Calendar
