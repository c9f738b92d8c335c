import AppSync.Accident
import AppSync.Document.Value
import AppSync.Text.Hex

/-! Dates and moments as scalars write them. -/

namespace AppSync.Yaml

/-- A written time of day with its fraction, and its offset: a sign, hours and minutes. -/
structure WrittenTime where
  hour : List Char
  minute : List Char
  second : List Char
  fraction : List Char
  isUtc : Bool
  offset : Option (Bool × List Char × List Char)

/-- A written date, and the time of day behind it. -/
structure WrittenMoment where
  year : List Char
  month : List Char
  day : List Char
  time : Option WrittenTime

/-- At most two digits, of which there has to be one, and the rest. -/
def oneOrTwoDigits? (chars : List Char) : Option (List Char × List Char) :=
  let digits := (chars.take 2).takeWhile Char.isDigit
  if digits.isEmpty then none else some (digits, chars.drop digits.length)

/-- An exact number of digits, and the rest. -/
def exactDigits? (count : Nat) (chars : List Char) : Option (List Char × List Char) :=
  let digits := chars.take count
  if digits.length = count && digits.all Char.isDigit then some (digits, chars.drop count) else none

/-- The rest behind a character that has to come first. -/
def after? (c : Char) : List Char → Option (List Char)
  | first :: rest => if first = c then some rest else none
  | [] => none

/-- The blanks that may stand inside a moment. -/
def isInnerBlank (c : Char) : Bool :=
  c == ' ' || c == '\t'

/-- The offset at the end of a moment. -/
def writtenOffset? (chars : List Char) : Option (Bool × Option (Bool × List Char × List Char)) :=
  match chars.dropWhile isInnerBlank with
  | ['Z'] => some (true, none)
  | sign :: rest =>
    if sign = '-' ∨ sign = '+' then do
      let (hours, rest) ← oneOrTwoDigits? rest
      match rest with
      | [] => some (false, some (sign == '-', hours, []))
      | ':' :: rest =>
        let (minutes, rest) ← exactDigits? 2 rest
        if rest.isEmpty then some (false, some (sign == '-', hours, minutes)) else none
      | _ => none
    else none
  -- Blanks in front of an offset are passed over, but none may stand at the end.
  | [] => if chars.isEmpty then some (false, none) else none

/-- The time of day at the end of a moment. -/
def writtenTime? (chars : List Char) : Option WrittenTime := do
  let (hour, rest) ← oneOrTwoDigits? chars
  let (minute, rest) ← exactDigits? 2 (← after? ':' rest)
  let (second, rest) ← exactDigits? 2 (← after? ':' rest)
  let (fraction, rest) := match rest with
    | '.' :: rest => (rest.takeWhile Char.isDigit, rest.dropWhile Char.isDigit)
    | _ => ([], rest)
  let (isUtc, offset) ← writtenOffset? rest
  return ⟨hour, minute, second, fraction, isUtc, offset⟩

/-- The parts of a text that has the form of a date or a moment. -/
def writtenMoment? (text : List Char) : Option WrittenMoment := do
  let (year, rest) ← exactDigits? 4 text
  let (month, rest) ← oneOrTwoDigits? (← after? '-' rest)
  let (day, rest) ← oneOrTwoDigits? (← after? '-' rest)
  match rest with
  | [] => return ⟨year, month, day, none⟩
  | c :: tail =>
    let time ←
      if c = 'T' ∨ c = 't' then some tail
      else if isInnerBlank c then some (tail.dropWhile isInnerBlank)
      else none
    return ⟨year, month, day, some (← writtenTime? time)⟩

/-- The texts that are dates or moments unless tagged otherwise; a lone date has all its zeros. -/
def isMoment (text : List Char) : Bool :=
  match writtenMoment? text with
  | none => false
  | some written =>
    written.time.isSome || (written.month.length == 2 && written.day.length == 2)

/-- A fraction of a second in microseconds, further digits dropped. -/
def microseconds (fraction : List Char) : Nat :=
  let digits := fraction.take 6
  Text.decimalNumber (digits ++ List.replicate (6 - digits.length) '0')

/-- The seconds of an offset, which has to be shorter than a day. -/
def offsetSeconds (isWest : Bool) (hours minutes : List Char) : Except Accident Int :=
  let size : Int := Text.decimalNumber hours * 3600 + Text.decimalNumber minutes * 60
  let seconds := if isWest then -size else size
  if size < Calendar.secondsPerDay then .ok seconds else .error (.offset seconds)

/-- The value of a text that is a date or a moment, or tagged as one. -/
def momentValue (text : List Char) : Except Accident Scalar := do
  match writtenMoment? text with
  | none => throw .shapelessMoment
  | some written =>
    let date : Date := ⟨Text.decimalNumber written.year, Text.decimalNumber written.month,
      Text.decimalNumber written.day⟩
    match written.time with
    | none =>
      match Calendar.dateFault? date with
      | some fault => throw (.calendar fault)
      | none => return .date date
    | some time =>
      let offset ← match time.offset with
        | some (isWest, hours, minutes) => some <$> offsetSeconds isWest hours minutes
        | none => pure (if time.isUtc then some 0 else none)
      let clock : Clock := ⟨Text.decimalNumber time.hour, Text.decimalNumber time.minute,
        Text.decimalNumber time.second, microseconds time.fraction⟩
      -- A fault of the date is told before one of the time.
      match Calendar.dateFault? date, Calendar.clockFault? clock with
      | some fault, _ => throw (.calendar fault)
      | none, some fault => throw (.calendar fault)
      | none, none => return .moment ⟨date, clock, offset⟩

end AppSync.Yaml
