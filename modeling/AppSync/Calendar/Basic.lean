/-! Dates, times of day and moments of the proleptic Gregorian calendar, years 1 to 9999. -/

namespace AppSync

/-- A calendar date. -/
structure Date where
  year : Nat
  month : Nat
  day : Nat
deriving DecidableEq, Repr

/-- A time of day. -/
structure Clock where
  hour : Nat
  minute : Nat
  second : Nat
  microsecond : Nat
deriving DecidableEq, Repr

/-- A date and a time of day, with the seconds by which its clock runs ahead of UTC if known. -/
structure Moment where
  date : Date
  clock : Clock
  offset : Option Int
deriving DecidableEq, Repr

namespace Calendar

/-- The last year of the calendar. -/
def lastYear : Nat := 9999

/-- Every fourth year, but of the centuries every fourth only. -/
def isLeapYear (year : Nat) : Bool :=
  year % 4 = 0 && (year % 100 ≠ 0 || year % 400 = 0)

/-- The length of a month. -/
def daysInMonth (year month : Nat) : Nat :=
  if month = 2 then (if isLeapYear year then 29 else 28)
  else if month = 4 ∨ month = 6 ∨ month = 9 ∨ month = 11 then 30
  else 31

/-- Days of all years before one. -/
def daysBeforeYear (year : Nat) : Nat :=
  let past := year - 1
  past * 365 + past / 4 - past / 100 + past / 400

/-- Days of a year before one of its months. -/
def daysBeforeMonth (year : Nat) : Nat → Nat
  | 0 => 0
  | 1 => 0
  | month + 1 => daysBeforeMonth year month + daysInMonth year month

/-- Why numbers name no date or time of day. -/
inductive Fault where
  | year (number : Nat)
  | month
  | day
  | hour
  | minute
  | second
deriving DecidableEq, Repr

/-- The sentence that states a fault. -/
def Fault.message : Fault → String
  | .year number => s!"year {number} is out of range"
  | .month => "month must be in 1..12"
  | .day => "day is out of range for month"
  | .hour => "hour must be in 0..23"
  | .minute => "minute must be in 0..59"
  | .second => "second must be in 0..59"

/-- The first fault of a date. -/
def dateFault? (date : Date) : Option Fault :=
  if date.year = 0 ∨ lastYear < date.year then some (.year date.year)
  else if date.month = 0 ∨ 12 < date.month then some .month
  else if date.day = 0 ∨ daysInMonth date.year date.month < date.day then some .day
  else none

/-- The first fault of a time of day. -/
def clockFault? (clock : Clock) : Option Fault :=
  if 24 ≤ clock.hour then some .hour
  else if 60 ≤ clock.minute then some .minute
  else if 60 ≤ clock.second then some .second
  else none

/-- The number of a date, counted from 1 at the first day of year 1. -/
def dayNumber (date : Date) : Nat :=
  daysBeforeYear date.year + daysBeforeMonth date.year date.month + date.day

/-- Finds the last year, from a given one on, that begins before a day number is reached. -/
def yearFrom : Nat → Nat → Nat → Nat
  | 0, _, year => year
  | fuel + 1, number, year =>
    if daysBeforeYear (year + 1) < number then yearFrom fuel number (year + 1) else year

/-- Finds the last month, from a given one on, that begins before a day of the year is reached. -/
def monthFrom (year : Nat) : Nat → Nat → Nat → Nat
  | 0, _, month => month
  | fuel + 1, dayOfYear, month =>
    if daysBeforeMonth year (month + 1) < dayOfYear then monthFrom year fuel dayOfYear (month + 1)
    else month

/-- The date with a given number. -/
def ofDayNumber (number : Nat) : Date :=
  -- No year is longer than 366 days, so the search starts at or below the year sought.
  let first := (number - 1) / 366 + 1
  let year := yearFrom (number / 366 + 1) number first
  let dayOfYear := number - daysBeforeYear year
  let month := monthFrom year 11 dayOfYear 1
  ⟨year, month, dayOfYear - daysBeforeMonth year month⟩

/-- The seconds of a day. -/
def secondsPerDay : Nat := 86400

/-- The seconds of a day before a time of it. -/
def secondOfDay (clock : Clock) : Nat :=
  clock.hour * 3600 + clock.minute * 60 + clock.second

/-- Seconds from the first second of year 1, on the moment's own clock. -/
def localSeconds (moment : Moment) : Nat :=
  (dayNumber moment.date - 1) * secondsPerDay + secondOfDay moment.clock

/-- Seconds from the first second of year 1 in UTC; without an offset the clock is taken as is. -/
def instant (moment : Moment) : Int :=
  localSeconds moment - moment.offset.getD 0

/-- One second past the last of the calendar. -/
def endOfTime : Nat :=
  dayNumber ⟨lastYear, 12, 31⟩ * secondsPerDay

/-- The date and time of day at a count of seconds from the first second of year 1. -/
def ofSeconds (seconds microsecond : Nat) : Date × Clock :=
  let second := seconds % secondsPerDay
  (ofDayNumber (seconds / secondsPerDay + 1),
    ⟨second / 3600, second / 60 % 60, second % 60, microsecond⟩)

/-- A moment on the clock of UTC; `none` when it leaves the calendar. -/
def toUtc? (moment : Moment) : Option Moment :=
  match moment.offset with
  | none => some moment
  | some _ =>
    let seconds := instant moment
    if seconds < 0 ∨ (endOfTime : Int) ≤ seconds then none
    else
      let found := ofSeconds seconds.toNat moment.clock.microsecond
      some ⟨found.1, found.2, some 0⟩

end Calendar

end AppSync
