import Mathlib.Tactic.IntervalCases
import ReleaseBuilds.Time.Calendar

/-!
# Dates and their days

The date of a day stands in the calendar, and its count of days is that day. Both follow from one
decomposition: a day of an era is given by its century, its leap cycle, its year and a day of the
year that begins in March.
-/

namespace ReleaseBuilds.Date

/-- The place of a day within an era. Only the last of four centuries and the last of four years can
be longer by a day. -/
structure Place where
  century : Int
  cycle : Int
  year : Int
  day : Int
  century_bounds : 0 ≤ century ∧ century ≤ 3
  cycle_bounds : 0 ≤ cycle ∧ cycle ≤ 24
  year_bounds : 0 ≤ year ∧ year ≤ 3
  day_bounds : 0 ≤ day ∧ day ≤ 365
  /-- The last day of a long year is a leap day. -/
  day_eq_last : day = 365 → year = 3 ∧ (cycle = 24 → century = 3)

namespace Place

/-- Days since the start of the era. -/
def dayOfEra (p : Place) : Int := p.century * 36524 + p.cycle * 1461 + p.year * 365 + p.day

/-- Months since March. -/
def month (p : Place) : Int := (5 * p.day + 2) / 153

/-- Days since the start of the month. -/
def dayOfMonth (p : Place) : Int := p.day - (153 * p.month + 2) / 5

/-- The year that begins with the March before the day. -/
def fromMarch (p : Place) (era : Int) : Int :=
  era * 400 + p.century * 100 + p.cycle * 4 + p.year

/-- The date of a place in an era. January and February belong to the next year. -/
def date (p : Place) (era : Int) : Date where
  year := if p.month < 10 then p.fromMarch era else p.fromMarch era + 1
  month := (if p.month < 10 then p.month + 3 else p.month - 9).toNat
  day := (p.dayOfMonth + 1).toNat

theorem month_bounds (p : Place) : 0 ≤ p.month ∧ p.month ≤ 11 := by
  have hday := p.day_bounds
  unfold month
  omega

theorem fromMarch_div (p : Place) (era : Int) : p.fromMarch era / 400 = era := by
  have hcentury := p.century_bounds
  have hcycle := p.cycle_bounds
  have hyear := p.year_bounds
  unfold fromMarch
  omega

theorem fromMarch_mod (p : Place) (era : Int) :
    p.fromMarch era % 400 = p.century * 100 + p.cycle * 4 + p.year := by
  have hera := p.fromMarch_div era
  unfold fromMarch at hera ⊢
  omega

/-- The leap days of an era before the day. -/
theorem leapDays (p : Place) :
    (p.century * 100 + p.cycle * 4 + p.year) / 4 - (p.century * 100 + p.cycle * 4 + p.year) / 100 =
      p.century * 24 + p.cycle := by
  have hcycle := p.cycle_bounds
  have hyear := p.year_bounds
  omega

theorem dayOfMonth_nonneg (p : Place) : 0 ≤ p.dayOfMonth := by
  unfold dayOfMonth month
  omega

theorem toDays_date (p : Place) (era : Int) :
    (p.date era).toDays = era * 146097 + p.dayOfEra - 719468 := by
  have hmonth := p.month_bounds
  have hday := p.dayOfMonth_nonneg
  -- counted from March, the year and the month are those of the place again
  have hyear : (if (p.date era).month ≤ 2 then (p.date era).year - 1 else (p.date era).year) =
      p.fromMarch era := by
    simp only [date]
    split <;> split <;> omega
  have hsince : (if (p.date era).month ≤ 2 then ((p.date era).month : Int) + 9
      else (p.date era).month - 3) = p.month := by
    simp only [date]
    split <;> split <;> omega
  have hdate : ((p.date era).day : Int) = p.dayOfMonth + 1 := by
    simp only [date]
    omega
  have hleap := p.leapDays
  simp only [toDays, hyear, hsince, hdate, fromMarch_div, fromMarch_mod, dayOfMonth, dayOfEra]
  omega

theorem isLeap_of_day_eq_last {p : Place} (h : p.day = 365) (era : Int) :
    isLeap (p.fromMarch era + 1) = true := by
  obtain ⟨hyear, hcentury⟩ := p.day_eq_last h
  have hbounds := p.century_bounds
  have hcycle := p.cycle_bounds
  simp only [isLeap, fromMarch, hyear, Bool.or_eq_true, Bool.and_eq_true, beq_iff_eq, bne_iff_ne]
  omega

theorem valid_date (p : Place) (era : Int) : (p.date era).Valid := by
  have hday := p.day_bounds
  have hnonneg := p.dayOfMonth_nonneg
  obtain ⟨hfirst, hlast⟩ := p.month_bounds
  refine ⟨by simp only [date]; omega, ?_⟩
  have hmonth : p.month = (5 * p.day + 2) / 153 := rfl
  have hdate : p.dayOfMonth = p.day - (153 * p.month + 2) / 5 := rfl
  simp only [date]
  generalize p.month = m at *
  -- the twelve months from March on, of which only the last depends on the year
  interval_cases m
  case «11» =>
    by_cases hleap : p.day = 365
    · simp [monthLength, isLeap_of_day_eq_last hleap]
      omega
    · simp [monthLength]
      split <;> omega
  all_goals
    simp [monthLength]
    omega

end Place

/-- Every day is a day of some era. -/
theorem exists_place (days : Int) :
    ∃ (p : Place) (era : Int), days = era * 146097 + p.dayOfEra - 719468 ∧
      ofDays days = p.date era := by
  let dayOfEra := (days + 719468) % 146097
  let century := min (dayOfEra / 36524) 3
  let dayOfCentury := dayOfEra - century * 36524
  let cycle := dayOfCentury / 1461
  let dayOfCycle := dayOfCentury - cycle * 1461
  let year := min (dayOfCycle / 365) 3
  let p : Place := {
    century, cycle, year
    day := dayOfCycle - year * 365
    century_bounds := by omega
    cycle_bounds := by omega
    year_bounds := by omega
    day_bounds := by omega
    day_eq_last := by omega }
  refine ⟨p, (days + 719468) / 146097, ?_, ?_⟩
  · simp only [p, Place.dayOfEra]
    omega
  · rfl

theorem toDays_ofDays (days : Int) : (ofDays days).toDays = days := by
  obtain ⟨p, era, hdays, hdate⟩ := exists_place days
  rw [hdate, p.toDays_date, hdays]

theorem valid_ofDays (days : Int) : (ofDays days).Valid := by
  obtain ⟨p, era, -, hdate⟩ := exists_place days
  rw [hdate]
  exact p.valid_date era

end ReleaseBuilds.Date
