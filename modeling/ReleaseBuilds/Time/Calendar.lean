/-!
# The Gregorian calendar

Dates of the proleptic Gregorian calendar and their count of days from 1 January 1970. The calendar
repeats after 146097 days. Inside one such era years are counted from March, so that a leap day is
the last day of its year; eras, centuries, leap cycles and years are then plain quotients.
-/

namespace ReleaseBuilds

/-- A year, a month from 1 on and a day from 1 on. Year 0 precedes year 1. -/
structure Date where
  year : Int
  month : Nat
  day : Nat
deriving DecidableEq, Repr

namespace Date

/-- Years divisible by four, of the centuries only those divisible by four hundred. -/
def isLeap (year : Int) : Bool :=
  (year % 4 == 0 && year % 100 != 0) || year % 400 == 0

/-- The length of a month; zero for a number that names no month. -/
def monthLength (year : Int) (month : Nat) : Nat :=
  match month with
  | 2 => if isLeap year then 29 else 28
  | 4 | 6 | 9 | 11 => 30
  | 1 | 3 | 5 | 7 | 8 | 10 | 12 => 31
  | _ => 0

/-- A date that stands in the calendar. -/
def Valid (d : Date) : Prop := 1 ≤ d.day ∧ d.day ≤ monthLength d.year d.month

instance (d : Date) : Decidable d.Valid :=
  inferInstanceAs (Decidable (1 ≤ d.day ∧ d.day ≤ monthLength d.year d.month))

/-- Days from 1 January 1970 to the date, negative before it. -/
def toDays (d : Date) : Int :=
  let year := if d.month ≤ 2 then d.year - 1 else d.year
  let month : Int := if d.month ≤ 2 then d.month + 9 else d.month - 3
  let era := year / 400
  let yearOfEra := year % 400
  let dayOfYear := (153 * month + 2) / 5 + d.day - 1
  era * 146097 + yearOfEra * 365 + yearOfEra / 4 - yearOfEra / 100 + dayOfYear - 719468

/-- The date that lies the given number of days after 1 January 1970. -/
def ofDays (days : Int) : Date :=
  let shifted := days + 719468
  let era := shifted / 146097
  let dayOfEra := shifted % 146097
  let century := min (dayOfEra / 36524) 3
  let dayOfCentury := dayOfEra - century * 36524
  let cycle := dayOfCentury / 1461
  let dayOfCycle := dayOfCentury - cycle * 1461
  let year := min (dayOfCycle / 365) 3
  let dayOfYear := dayOfCycle - year * 365
  let month := (5 * dayOfYear + 2) / 153
  let day := dayOfYear - (153 * month + 2) / 5 + 1
  let fromMarch := era * 400 + century * 100 + cycle * 4 + year
  { year := if month < 10 then fromMarch else fromMarch + 1
    month := (if month < 10 then month + 3 else month - 9).toNat
    day := day.toNat }

end Date

end ReleaseBuilds
