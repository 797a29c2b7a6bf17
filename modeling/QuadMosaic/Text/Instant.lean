/-!
# Instants

A number of seconds since the beginning of 1970, written as a date and a time of day.
-/

namespace QuadMosaic

/-- A day of the calendar. -/
structure CalendarDay where
  year : Int
  month : Nat
  day : Nat
  deriving DecidableEq, Repr

namespace CalendarDay

/-- The day that lies some days after the first of January 1970.  Years are counted from March on,
so that a leap day ends its year; then months of 153 days in five repeat, and 400 years have 146097
days. -/
def ofDayNumber (n : Int) : CalendarDay :=
  let shifted := n + 719468
  let era := shifted.fdiv 146097
  let dayOfEra := (shifted.fmod 146097).toNat
  let yearOfEra :=
    (dayOfEra - dayOfEra / 1460 + dayOfEra / 36524 - dayOfEra / 146096) / 365
  let dayOfYear := dayOfEra - (365 * yearOfEra + yearOfEra / 4 - yearOfEra / 100)
  let monthFromMarch := (5 * dayOfYear + 2) / 153
  let month := if monthFromMarch < 10 then monthFromMarch + 3 else monthFromMarch - 9
  {
    year := era * 400 + yearOfEra + (if month ≤ 2 then 1 else 0)
    month
    day := dayOfYear - (153 * monthFromMarch + 2) / 5 + 1 }

end CalendarDay

namespace Instant

/-- A number in at least two digits. -/
def twoDigits (n : Nat) : String := if n < 10 then "0" ++ toString n else toString n

/-- The date and the time of day some seconds after the beginning of 1970. -/
def text (seconds : Int) : String :=
  let day := CalendarDay.ofDayNumber (seconds.fdiv 86400)
  let rest := (seconds.fmod 86400).toNat
  toString day.year ++ "-" ++ twoDigits day.month ++ "-" ++ twoDigits day.day ++ "T" ++
    twoDigits (rest / 3600) ++ ":" ++ twoDigits (rest / 60 % 60) ++ ":" ++ twoDigits (rest % 60)

end Instant

end QuadMosaic
