import AppSync.Calendar.Timestamp
import AppSync.Calendar.Written
import AppSync.Proofs.Calendar.Days
import AppSync.Proofs.Text.Decimal
import Mathlib.Data.List.TakeWhile

/-!
Timestamps denote instants: what one shows is a moment in UTC at the instant of the moment that it
is made of, and none is made where the calendar of UTC has no such moment.
-/

namespace AppSync.Calendar

section Reading

/-- The number before a mark, and what is behind it. -/
def numberBefore? (mark : Char) (chars : List Char) : Option (Nat × List Char) := do
  let (digits, rest) ← partBefore? mark mark chars
  if !digits.isEmpty && digits.all Char.isDigit then some (Text.decimalNumber digits, rest)
  else none

/-- The moment in UTC of which a timestamp shows the fields. -/
def shown? (text : String) : Option Moment := do
  let (year, rest) ← numberBefore? '-' text.toList
  let (month, rest) ← numberBefore? '-' rest
  let (day, rest) ← numberBefore? 'T' rest
  let (hour, rest) ← numberBefore? ':' rest
  let (minute, rest) ← numberBefore? ':' rest
  let (second, rest) ← numberBefore? 'Z' rest
  if rest = [] then some ⟨⟨year, month, day⟩, ⟨hour, minute, second, 0⟩, some 0⟩ else none

/-- Digits that spell a number. -/
structure Spells (digits : List Char) (value : Nat) : Prop where
  filled : digits ≠ []
  all_digits : ∀ c ∈ digits, c.isDigit = true
  value : Text.decimalNumber digits = value

/-- A number is spelled as it is written. -/
theorem spells_toString (value : Nat) : Spells (toString value).toList value := by
  have written : (toString value).toList = Nat.toDigits 10 value := Nat.toList_repr
  rw [written]
  exact ⟨Nat.toDigits_ne_nil,
    fun _ inside => Nat.isDigit_of_mem_toDigits (by decide) (by decide) inside,
    Text.decimalNumber_toDigits value⟩

/-- A zero in front changes nothing in what digits spell. -/
theorem spells_twoDigits (value : Nat) : Spells (twoDigits value).toList value := by
  have plain := spells_toString value
  unfold twoDigits
  split
  · rw [String.toList_append]
    refine ⟨by simp, fun c inside => ?_, plain.value⟩
    rcases List.mem_append.mp inside with zero | digit
    · rw [List.mem_singleton.mp zero]
      rfl
    · exact plain.all_digits c digit
  · exact plain

/-- A number that is spelled before a mark is read. -/
theorem numberBefore?_append {digits rest : List Char} {value : Nat} {mark : Char}
    (spells : Spells digits value) (other : mark.isDigit = false) :
    numberBefore? mark (digits ++ mark :: rest) = some (value, rest) := by
  have clear : ∀ c ∈ digits, (c != mark && c != mark) = true := by
    intro c inside
    have differs : c ≠ mark := by
      rintro rfl
      exact nomatch other.symm.trans (spells.all_digits c inside)
    simp [differs]
  -- The mark ends the digits, and they are all that is in front of it.
  have stops : ∀ c ∈ (mark :: rest).head?, (c != mark && c != mark) = false := by simp
  obtain ⟨taken, dropped⟩ := Text.takeWhile_append_of_stops digits stops
  rw [List.takeWhile_eq_self_iff.mpr clear] at taken
  rw [List.dropWhile_eq_nil_iff.mpr clear, List.nil_append] at dropped
  unfold numberBefore? partBefore?
  simp only [taken, dropped, Option.bind_eq_bind, Option.bind_some]
  have shape : (!digits.isEmpty && digits.all Char.isDigit) = true := by
    simpa [spells.filled] using spells.all_digits
  rw [if_pos shape, spells.value]

/-- A moment as its timestamp shows it: without fractions of a second, and in UTC. -/
def asShown (moment : Moment) : Moment :=
  ⟨moment.date, { moment.clock with microsecond := 0 }, some 0⟩

/-- A timestamp shows the fields that it is made of. -/
theorem shown?_stamp (moment : Moment) : shown? (stamp moment) = some (asShown moment) := by
  have written : (stamp moment).toList =
      (toString moment.date.year).toList ++ '-' :: ((twoDigits moment.date.month).toList ++
        '-' :: ((twoDigits moment.date.day).toList ++ 'T' :: ((twoDigits moment.clock.hour).toList ++
        ':' :: ((twoDigits moment.clock.minute).toList ++
        ':' :: ((twoDigits moment.clock.second).toList ++ 'Z' :: []))))) := by
    simp [stamp]
  unfold shown?
  -- Each field ends at the mark behind it.
  rw [written]
  simp only [numberBefore?_append (spells_toString _) (show '-'.isDigit = false from rfl),
    numberBefore?_append (spells_twoDigits _) (show '-'.isDigit = false from rfl),
    numberBefore?_append (spells_twoDigits _) (show 'T'.isDigit = false from rfl),
    numberBefore?_append (spells_twoDigits _) (show ':'.isDigit = false from rfl),
    numberBefore?_append (spells_twoDigits _) (show 'Z'.isDigit = false from rfl),
    Option.bind_eq_bind, Option.bind_some, if_true, asShown]

end Reading

/-- A moment that the calendar has. -/
structure IsValid (moment : Moment) : Prop where
  date : dateFault? moment.date = none
  clock : clockFault? moment.clock = none

/-- The times of day without fault have all fields below their bounds. -/
theorem clockFault?_eq_none_iff {clock : Clock} :
    clockFault? clock = none ↔ clock.hour < 24 ∧ clock.minute < 60 ∧ clock.second < 60 := by
  unfold clockFault?
  -- The fields are checked one after the other, each against its bound.
  constructor
  · intro faultless
    split at faultless
    · cases faultless
    split at faultless
    · cases faultless
    split at faultless
    · cases faultless
    omega
  · rintro ⟨hour, minute, second⟩
    rw [if_neg (by omega), if_neg (by omega), if_neg (by omega)]

/-- The first moment of the calendar of UTC. -/
def firstMoment : Moment := ⟨⟨1, 1, 1⟩, ⟨0, 0, 0, 0⟩, some 0⟩

/-- The last moment of the calendar of UTC. -/
def lastMoment : Moment := ⟨⟨lastYear, 12, 31⟩, ⟨23, 59, 59, 0⟩, some 0⟩

/-- The number of days of the calendar. -/
theorem dayNumber_lastDay : dayNumber ⟨lastYear, 12, 31⟩ = 3652059 := by decide

/-- The moments of the calendar are counted from the first to the last one. -/
theorem instant_bounds : instant firstMoment = 0 ∧ instant lastMoment + 1 = endOfTime := by
  constructor
  · rfl
  · unfold instant localSeconds endOfTime lastMoment
    rw [dayNumber_lastDay]
    rfl

/-- The calendar of UTC goes up to the year in which seconds count up to its end. -/
theorem year_ofDayNumber_le {number : Nat} (positive : 1 ≤ number)
    (within : number ≤ dayNumber ⟨lastYear, 12, 31⟩) : (ofDayNumber number).year ≤ lastYear := by
  obtain ⟨proper, numbered⟩ := ofDayNumber_spec positive
  have begun := proper.fallsIn_year.begun
  rw [numbered] at begun
  -- The year after the last one begins behind all days of the calendar.
  by_contra late
  have behind := daysBeforeYear_mono (Nat.succ_le_of_lt (Nat.not_le.mp late))
  have all_days : daysBeforeYear (lastYear + 1) = 3652059 := by decide
  rw [Nat.succ_eq_add_one, all_days] at behind
  rw [dayNumber_lastDay] at within
  omega

/-- The moment at a count of seconds is a moment of the calendar at that count. -/
theorem ofSeconds_spec {seconds : Nat} (within : seconds < endOfTime) (microsecond : Nat)
    (offset : Option Int) :
    IsValid ⟨(ofSeconds seconds microsecond).1, (ofSeconds seconds microsecond).2, offset⟩ ∧
      localSeconds ⟨(ofSeconds seconds microsecond).1, (ofSeconds seconds microsecond).2, offset⟩ =
        seconds := by
  obtain ⟨proper, numbered⟩ := ofDayNumber_spec (Nat.le_add_left 1 (seconds / secondsPerDay))
  have last : seconds / secondsPerDay + 1 ≤ dayNumber ⟨lastYear, 12, 31⟩ := by
    unfold endOfTime secondsPerDay at *
    omega
  -- Whole days make the date, and the seconds that are left the clock.
  unfold ofSeconds
  refine ⟨⟨?_, ?_⟩, ?_⟩
  · exact dateFault?_eq_none_iff.mpr ⟨proper, year_ofDayNumber_le (Nat.le_add_left _ _) last⟩
  · rw [clockFault?_eq_none_iff]
    unfold secondsPerDay
    dsimp only
    omega
  · unfold localSeconds
    rw [numbered]
    unfold secondOfDay secondsPerDay
    dsimp only
    omega

/-- Moments with the same seconds on their clocks have the same date and time of day. -/
theorem asShown_eq_of_localSeconds_eq {moment other : Moment} (valid : IsValid moment)
    (also : IsValid other) (same : localSeconds moment = localSeconds other) :
    asShown moment = asShown other := by
  obtain ⟨hour, minute, second⟩ := clockFault?_eq_none_iff.mp valid.clock
  obtain ⟨hour', minute', second'⟩ := clockFault?_eq_none_iff.mp also.clock
  have proper := (dateFault?_eq_none_iff.mp valid.date).1
  have proper' := (dateFault?_eq_none_iff.mp also.date).1
  have counted : 1 ≤ dayNumber moment.date := Nat.one_le_of_lt proper.fallsIn_year.begun
  have counted' : 1 ≤ dayNumber other.date := Nat.one_le_of_lt proper'.fallsIn_year.begun
  -- The seconds of a day are fewer than the day has, so that days and seconds come apart.
  unfold localSeconds secondOfDay secondsPerDay at same
  have date : moment.date = other.date := proper.eq_of_dayNumber_eq proper' (by omega)
  have fields : moment.clock.hour = other.clock.hour ∧
      moment.clock.minute = other.clock.minute ∧ moment.clock.second = other.clock.second := by
    rw [date] at same
    omega
  simp [asShown, date, fields]

/-- What a timestamp shows is at the instant of the moment in UTC that it is made of. -/
theorem instant_asShown {moment : Moment} (utc : moment.offset.getD 0 = 0) :
    instant (asShown moment) = instant moment := by
  simp only [instant, utc]
  rfl

/-- A moment with an offset leaves the calendar or has the same instant on the clock of UTC. -/
theorem toUtc?_cases {moment : Moment} (zoned : moment.offset.isSome = true) :
    (toUtc? moment = none ∧
        (instant moment < instant firstMoment ∨ instant lastMoment < instant moment)) ∨
      ∃ utc, toUtc? moment = some utc ∧ IsValid utc ∧ utc.offset = some 0 ∧
        instant utc = instant moment ∧
        ¬(instant moment < instant firstMoment ∨ instant lastMoment < instant moment) := by
  obtain ⟨offset, known⟩ := Option.isSome_iff_exists.mp zoned
  obtain ⟨first, last⟩ := instant_bounds
  unfold toUtc?
  simp only [known]
  -- The conversion is refused where the instant is outside what the calendar can show.
  split
  · rename_i outside
    exact .inl ⟨rfl, by omega⟩
  · rename_i inside
    have within : (instant moment).toNat < endOfTime := by omega
    obtain ⟨valid, counted⟩ := ofSeconds_spec within moment.clock.microsecond (some 0)
    refine .inr ⟨_, rfl, valid, rfl, ?_, by omega⟩
    have instant_utc : instant ⟨(ofSeconds (instant moment).toNat moment.clock.microsecond).1,
        (ofSeconds (instant moment).toNat moment.clock.microsecond).2, some 0⟩ =
        ((instant moment).toNat : Int) - 0 := by
      rw [instant, counted]
      rfl
    rw [instant_utc]
    omega

/-- A timestamp of a moment with an offset shows a moment in UTC at the same instant. -/
theorem shown?_timestamp? {moment : Moment} (zoned : moment.offset.isSome = true) {text : String}
    (stamped : timestamp? moment = some text) :
    ∃ utc, shown? text = some utc ∧ text = stamp utc ∧ IsValid utc ∧ asShown utc = utc ∧
      instant utc = instant moment := by
  rcases toUtc?_cases zoned with ⟨gone, -⟩ | ⟨utc, found, valid, offset, same, -⟩
  · rw [timestamp?, gone, Option.map_none] at stamped
    exact nomatch stamped
  · rw [timestamp?, found, Option.map_some, Option.some.injEq] at stamped
    subst stamped
    refine ⟨asShown utc, shown?_stamp utc, rfl, ⟨valid.date, valid.clock⟩, rfl, ?_⟩
    rw [instant_asShown (by rw [offset]; rfl), same]

/-- Timestamps of moments with offsets are the same exactly where their instants are. -/
theorem timestamp?_inj {moment other : Moment} (zoned : moment.offset.isSome = true)
    (also : other.offset.isSome = true) {text text' : String}
    (stamped : timestamp? moment = some text) (stamped' : timestamp? other = some text') :
    text = text' ↔ instant moment = instant other := by
  obtain ⟨utc, read, written, valid, bare, same⟩ := shown?_timestamp? zoned stamped
  obtain ⟨utc', read', written', valid', bare', same'⟩ := shown?_timestamp? also stamped'
  constructor
  · -- A text shows one moment.
    rintro rfl
    obtain rfl : utc = utc' := Option.some.inj (read.symm.trans read')
    exact same.symm.trans same'
  · -- Moments of UTC at one instant have the same seconds on their clocks.
    intro together
    have seconds (shown : Moment) (bare : asShown shown = shown) :
        instant shown = localSeconds shown := by
      rw [← bare]
      exact Int.sub_zero _
    have counted : localSeconds utc = localSeconds utc' := by
      rw [← same, ← same', seconds utc bare, seconds utc' bare'] at together
      exact Int.ofNat.inj together
    have equal := asShown_eq_of_localSeconds_eq valid valid' counted
    rw [bare, bare'] at equal
    rw [written, written', equal]

/--
Timestamps denote the instants of moments.

A moment without an offset shows its own fields. One with an offset has no timestamp exactly where
its instant is before the first or after the last moment of UTC; otherwise its timestamp shows a
moment in UTC at its instant, and is that of every other moment at that instant.
-/
theorem timestamp?_instant (moment : Moment) :
    (moment.offset = none → timestamp? moment = some (stamp moment) ∧
      shown? (stamp moment) = some (asShown moment)) ∧
    (moment.offset.isSome = true →
      (timestamp? moment = none ↔
        instant moment < instant firstMoment ∨ instant lastMoment < instant moment) ∧
      (∀ text, timestamp? moment = some text →
        ∃ utc, shown? text = some utc ∧ IsValid utc ∧ instant utc = instant moment) ∧
      ∀ other : Moment, other.offset.isSome = true → ∀ text text',
        timestamp? moment = some text → timestamp? other = some text' →
        (text = text' ↔ instant moment = instant other)) := by
  refine ⟨fun naive => ⟨?_, shown?_stamp moment⟩, fun zoned => ⟨?_, ?_, ?_⟩⟩
  · rw [timestamp?, toUtc?, naive]
    rfl
  · rw [timestamp?, Option.map_eq_none_iff]
    rcases toUtc?_cases zoned with ⟨gone, outside⟩ | ⟨utc, found, -, -, -, inside⟩
    · exact iff_of_true gone outside
    · exact iff_of_false (by simp [found]) inside
  · intro text stamped
    obtain ⟨utc, read, -, fits, -, same⟩ := shown?_timestamp? zoned stamped
    exact ⟨utc, read, fits, same⟩
  · intro other also text text' stamped stamped'
    exact timestamp?_inj zoned also stamped stamped'

/-- The last evening of a February, an hour behind UTC. -/
def leapEvening : Moment := ⟨⟨2024, 2, 29⟩, ⟨23, 30, 15, 0⟩, some (-3600)⟩

/-- The next morning, five and a half hours ahead of UTC. -/
def marchMorning : Moment := ⟨⟨2024, 3, 1⟩, ⟨6, 0, 15, 0⟩, some 19800⟩

/-- The last evening of the calendar, an hour behind UTC. -/
def lastEvening : Moment := ⟨⟨9999, 12, 31⟩, ⟨23, 0, 0, 0⟩, some (-3600)⟩

/-- The leap day is over in UTC, where the evening and the next morning meet; the calendar ends. -/
theorem timestamp?_instant_evenings :
    timestamp? leapEvening = some "2024-03-01T00:30:15Z" ∧
      timestamp? marchMorning = some "2024-03-01T00:30:15Z" ∧
      instant leapEvening = instant marchMorning ∧
      (∃ utc, shown? "2024-03-01T00:30:15Z" = some utc ∧ IsValid utc ∧
        instant utc = instant leapEvening) ∧
      timestamp? lastEvening = none ∧ instant lastMoment < instant lastEvening := by
  have evening : timestamp? leapEvening = some "2024-03-01T00:30:15Z" := by decide +kernel
  have morning : timestamp? marchMorning = some "2024-03-01T00:30:15Z" := by decide +kernel
  have ended : timestamp? lastEvening = none := by decide +kernel
  obtain ⟨-, shows, inj⟩ := (timestamp?_instant leapEvening).2 rfl
  have outside := ((timestamp?_instant lastEvening).2 rfl).1.mp ended
  have later : ¬instant lastEvening < instant firstMoment := by decide +kernel
  exact ⟨evening, morning, (inj marchMorning rfl _ _ evening morning).mp rfl, shows _ evening,
    ended, outside.resolve_left later⟩

end AppSync.Calendar
