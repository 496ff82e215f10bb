import Mathlib

namespace TokenFactory.Go

/-! Instants and the civil calendar, as package `time` computes them.

An instant is a Unix time in seconds. A `Duration` is a signed 64-bit count of
nanoseconds, so a product such as `time.Duration(n) * time.Second` wraps.
-/

/-- The stretch of constant offset that a location is in at some instant. -/
structure ZoneSpan where
  offset : Int
  start : Int
  stop : Int

/-- A location, by its table of zone transitions. -/
structure Location where
  lookup : Int → ZoneSpan

def Location.fixed (offset : Int) : Location :=
  ⟨fun _ => { offset, start := -2 ^ 63, stop := 2 ^ 63 - 1 }⟩

/-- Days from 1970-01-01 to a day of the proleptic Gregorian calendar. -/
def daysFromCivil (year month day : Int) : Int :=
  let shifted := if month ≤ 2 then year - 1 else year
  let era := shifted / 400
  let yearOfEra := shifted - era * 400
  let dayOfYear := (153 * (if month > 2 then month - 3 else month + 9) + 2) / 5 + day - 1
  era * 146097 + (yearOfEra * 365 + yearOfEra / 4 - yearOfEra / 100 + dayOfYear) - 719468

structure Civil where
  year : Int
  month : Int
  day : Int
deriving DecidableEq

def civilFromDays (days : Int) : Civil :=
  let shifted := days + 719468
  let era := shifted / 146097
  let dayOfEra := shifted - era * 146097
  let yearOfEra := (dayOfEra - dayOfEra / 1460 + dayOfEra / 36524 - dayOfEra / 146096) / 365
  let dayOfYear := dayOfEra - (365 * yearOfEra + yearOfEra / 4 - yearOfEra / 100)
  let monthIndex := (5 * dayOfYear + 2) / 153
  let month := if monthIndex < 10 then monthIndex + 3 else monthIndex - 9
  { year := yearOfEra + era * 400 + (if month ≤ 2 then 1 else 0)
    month
    day := dayOfYear - (153 * monthIndex + 2) / 5 + 1 }

section
variable (location : Location)

def Location.localSeconds (instant : Int) : Int :=
  instant + (location.lookup instant).offset

/-- `Time.Date`. -/
def Location.civil (instant : Int) : Civil :=
  civilFromDays (location.localSeconds instant / 86400)

/-- `Time.Weekday`, Sunday being 0. -/
def Location.weekday (instant : Int) : Int :=
  (location.localSeconds instant / 86400 + 4) % 7

/-- `time.Date`: the offset is looked up at the local reading first and, when
the zone found does not reach that instant, once more at the corrected one.
Months and days outside their range carry over. -/
def Location.date (year month day secondOfDay : Int) : Int :=
  let carried := year + (month - 1) / 12
  let days := daysFromCivil carried ((month - 1) % 12 + 1) 1 + (day - 1)
  let reading := days * 86400 + secondOfDay
  let span := location.lookup reading
  if span.offset = 0 then reading
  else
    let guess := reading - span.offset
    if guess < span.start ∨ guess ≥ span.stop then reading - (location.lookup guess).offset
    else guess

/-- `Time.AddDate`. -/
def Location.addDate (instant years months days : Int) : Int :=
  let civil := location.civil instant
  location.date (civil.year + years) (civil.month + months) (civil.day + days)
    (location.localSeconds instant % 86400)

end

def second : Int := 10 ^ 9
def hour : Int := 3600 * second

/-- `time.Duration(count) * unit`. -/
def duration (count unit : Int) : Int := Int.bmod (count * unit) (2 ^ 64)

/-- `Time.Add` followed by `Time.Unix`, from an instant without a fraction. -/
def addDuration (instant nanoseconds : Int) : Int := instant + nanoseconds / second

example : civilFromDays (daysFromCivil 2024 2 29 + 1) = ⟨2024, 3, 1⟩ := by decide
example : (Location.fixed 28800).date 2025 14 1 0 = (Location.fixed 28800).date 2026 2 1 0 := by decide

end TokenFactory.Go
