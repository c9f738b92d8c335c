import AppSync.Calendar.Basic

/-! Timestamps of generated documents. -/

namespace AppSync.Calendar

/-- A number with at least two digits. -/
def twoDigits (value : Nat) : String :=
  if value < 10 then "0" ++ toString value else toString value

/-- The date and time of day of a moment, the year without leading zeros, as if in UTC. -/
def stamp (moment : Moment) : String :=
  let date := moment.date
  let clock := moment.clock
  toString date.year ++ "-" ++ twoDigits date.month ++ "-" ++ twoDigits date.day ++ "T" ++
    twoDigits clock.hour ++ ":" ++ twoDigits clock.minute ++ ":" ++ twoDigits clock.second ++ "Z"

/-- The timestamp of a moment in UTC; one without an offset is written as it stands. -/
def timestamp? (moment : Moment) : Option String :=
  (toUtc? moment).map stamp

/-- What is reported of a moment that leaves the calendar. -/
def outOfRangeMessage : String := "date value out of range"

end AppSync.Calendar
