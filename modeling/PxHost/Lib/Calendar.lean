import Mathlib.Init

/-! Instants in milliseconds since 1970, with the month arithmetic of a proleptic UTC calendar. -/

namespace Calendar

/-- Milliseconds since the epoch. -/
abbrev Instant := Int

def dayMs : Int := 24 * 60 * 60 * 1000

/-- A calendar date: year, month from 0 to 11, day of the month from 1. -/
structure Date where
  year : Int
  month : Int
  day : Int
deriving DecidableEq, Repr

/-- Days from the epoch to the first day of a month; months past a year's end carry over. -/
def firstOfMonth (year month : Int) : Int :=
  -- Years start in March here, so that the leap day is the last day of its year.
  let shifted := month - 2
  let y := year + shifted / 12
  let m := shifted % 12
  let era := y / 400
  let yearOfEra := y - era * 400
  let dayOfYear := (153 * m + 2) / 5
  era * 146097 + yearOfEra * 365 + yearOfEra / 4 - yearOfEra / 100 + dayOfYear - 719468

def dateOfDay (days : Int) : Date :=
  let z := days + 719468
  let era := z / 146097
  let dayOfEra := z - era * 146097
  let yearOfEra :=
    (dayOfEra - dayOfEra / 1460 + dayOfEra / 36524 - dayOfEra / 146096) / 365
  let dayOfYear := dayOfEra - (365 * yearOfEra + yearOfEra / 4 - yearOfEra / 100)
  let m := (5 * dayOfYear + 2) / 153
  let day := dayOfYear - (153 * m + 2) / 5 + 1
  -- January and February belong to the next calendar year.
  if m < 10 then ⟨yearOfEra + era * 400, m + 2, day⟩ else ⟨yearOfEra + era * 400 + 1, m - 10, day⟩

/--
Move an instant by whole months, keeping the day of the month and the time of day.
A day the target month does not have runs over into the month after it.
-/
def addMonths (t : Instant) (months : Int) : Instant :=
  let date := dateOfDay (t / dayMs)
  (firstOfMonth date.year (date.month + months) + (date.day - 1)) * dayMs + t % dayMs

-- 31 January 2026 plus one month is 3 March 2026.
example : addMonths (firstOfMonth 2026 0 * dayMs + 30 * dayMs) 1 =
    firstOfMonth 2026 2 * dayMs + 2 * dayMs := by decide

end Calendar
