import AppSync.Document.Value
import AppSync.Text.Hex
import AppSync.Toml.Fault

/-! Numbers, dates and times of TOML texts. -/

namespace AppSync.Toml

/-! ## Numbers -/

/-- Digits of a class with single underscores between them, and the rest. -/
def groupedDigits (member : Char → Bool) : List Char → List Char × List Char
  | [] => ([], [])
  | '_' :: c :: rest =>
    if member c then
      let found := groupedDigits member rest
      (c :: found.1, found.2)
    else ([], '_' :: c :: rest)
  | c :: rest =>
    if member c then
      let found := groupedDigits member rest
      (c :: found.1, found.2)
    else ([], c :: rest)

/-- Digits that begin with a digit, and the rest. -/
def digits? (member : Char → Bool) (chars : List Char) : Option (List Char × List Char) :=
  match chars with
  | c :: _ => if member c then some (groupedDigits member chars) else none
  | [] => none

/-- Digits below a base. -/
def isDigitOf (base : Nat) (c : Char) : Bool :=
  (Text.hexValue? c).any (· < base)

/-- The base that the letter behind a zero announces. -/
def baseOf? (c : Char) : Option Nat :=
  if c = 'x' then some 16 else if c = 'b' then some 2 else if c = 'o' then some 8 else none

/-- The number that digits spell in a base. -/
def numberIn (base : Nat) (digits : List Char) : Nat :=
  digits.foldl (fun value c => value * base + (Text.hexValue? c).getD 0) 0

/-- A fraction, or nothing where no digit follows a point. -/
def fraction (chars : List Char) : List Char × List Char :=
  match chars with
  | '.' :: rest => (digits? Char.isDigit rest).getD ([], chars)
  | _ => ([], chars)

/-- An exponent, or nothing where no digit follows its sign. -/
def exponent? (chars : List Char) : Option (Int × List Char) :=
  match chars with
  | mark :: rest =>
    if mark = 'e' ∨ mark = 'E' then
      let negative := rest.head? = some '-'
      let unsigned := if negative ∨ rest.head? = some '+' then rest.drop 1 else rest
      (digits? Char.isDigit unsigned).map fun found =>
        let size : Int := Text.decimalNumber found.1
        (if negative then -size else size, found.2)
    else none
  | [] => none

/-- A decimal number: an integer unless a fraction or an exponent follows. -/
def decimal? (chars : List Char) : Option (Except Accident Scalar × List Char) :=
  let negative := chars.head? = some '-'
  let unsigned := if negative ∨ chars.head? = some '+' then chars.drop 1 else chars
  let whole? := match unsigned with
    | '0' :: rest => some (['0'], rest)
    | _ => digits? Char.isDigit unsigned
  whole?.map fun (whole, rest) =>
    let (fraction, afterFraction) := fraction rest
    -- The limit on digits concerns integers only; other numbers are rounded.
    match fraction, exponent? afterFraction with
    | [], none =>
      let size : Int := Text.decimalNumber whole
      (if Number.digitLimit < whole.length then .error (.longNumeral whole.length)
        else .ok (.int (if negative then -size else size)), rest)
    | _, exponent =>
      (.ok (.float (Binary64.ofDecimal negative (Text.decimalNumber (whole ++ fraction))
        ((exponent.map (·.1)).getD 0 - fraction.length))),
        (exponent.map (·.2)).getD afterFraction)

/-- A number in any base. -/
def number? (chars : List Char) : Option (Except Accident Scalar × List Char) :=
  match chars with
  | '0' :: letter :: rest =>
    match (baseOf? letter).bind fun base => (digits? (isDigitOf base) rest).map (base, ·) with
    | some (base, found) => some (.ok (.int (numberIn base found.1)), found.2)
    | none => decimal? chars
  | _ => decimal? chars

/-- Infinities and undefined numbers. -/
def specialNumber? (chars : List Char) : Option (Scalar × List Char) :=
  let word (size : Nat) : String := String.ofList (chars.take size)
  if word 3 = "inf" then some (.float (.infinite false), chars.drop 3)
  else if word 3 = "nan" then some (.float .nan, chars.drop 3)
  else if word 4 = "+inf" then some (.float (.infinite false), chars.drop 4)
  else if word 4 = "-inf" then some (.float (.infinite true), chars.drop 4)
  else if word 4 = "+nan" ∨ word 4 = "-nan" then some (.float .nan, chars.drop 4)
  else none

/-! ## Dates and times -/

/-- A number of two digits within bounds. -/
def twoDigits? (least greatest : Nat) : List Char → Option (Nat × List Char)
  | a :: b :: rest =>
    let value := Text.decimalNumber [a, b]
    if a.isDigit && b.isDigit && least ≤ value && value ≤ greatest then some (value, rest) else none
  | _ => none

/-- A fraction of a second in microseconds, further digits dropped. -/
def microseconds (chars : List Char) : Nat × List Char :=
  match chars with
  | '.' :: rest =>
    let digits := rest.takeWhile Char.isDigit
    let kept := digits.take 6
    if digits.isEmpty then (0, chars)
    else
      (Text.decimalNumber (kept ++ List.replicate (6 - kept.length) '0'),
        rest.dropWhile Char.isDigit)
  | _ => (0, chars)

/-- The rest behind a character that has to come first. -/
def behind? (c : Char) : List Char → Option (List Char)
  | first :: rest => if first = c then some rest else none
  | [] => none

/-- A time of day. -/
def time? (chars : List Char) : Option (Clock × List Char) := do
  let (hour, rest) ← twoDigits? 0 23 chars
  let (minute, rest) ← twoDigits? 0 59 (← behind? ':' rest)
  let (second, rest) ← twoDigits? 0 59 (← behind? ':' rest)
  let (microsecond, rest) := microseconds rest
  return (⟨hour, minute, second, microsecond⟩, rest)

/-- An offset from UTC in seconds, or nothing. -/
def offset (chars : List Char) : Option Int × List Char :=
  match chars with
  | 'Z' :: rest => (some 0, rest)
  | 'z' :: rest => (some 0, rest)
  | sign :: rest =>
    let found : Option (Int × List Char) := do
      let (hours, rest) ← twoDigits? 0 23 rest
      let (minutes, rest) ← twoDigits? 0 59 (← behind? ':' rest)
      return ((hours * 60 + minutes) * 60, rest)
    match found with
    | some (size, behind) =>
      if sign = '+' then (some size, behind)
      else if sign = '-' then (some (-size), behind)
      else (none, chars)
    | none => (none, chars)
  | [] => (none, chars)

/-- A year of four digits. -/
def year? (chars : List Char) : Option (Nat × List Char) :=
  let digits := chars.take 4
  if digits.length = 4 && digits.all Char.isDigit then
    some (Text.decimalNumber digits, chars.drop 4)
  else none

/-- A date, and the time of day behind it if there is one. -/
def moment? (chars : List Char) : Option (Scalar × List Char) := do
  let (year, rest) ← year? chars
  let (month, rest) ← twoDigits? 1 12 (← behind? '-' rest)
  let (day, rest) ← twoDigits? 1 31 (← behind? '-' rest)
  let date : Date := ⟨year, month, day⟩
  let time : Option (Clock × List Char) := match rest with
    | c :: tail => if c = 'T' ∨ c = 't' ∨ c = ' ' then time? tail else none
    | [] => none
  match time with
  | none => return (.date date, rest)
  | some (clock, rest) =>
    let (offset, rest) := offset rest
    return (.moment ⟨date, clock, offset⟩, rest)

/-- The date of a scalar that has one. -/
def dateOf? : Scalar → Option Date
  | .date date => some date
  | .moment moment => some moment.date
  | _ => none

/-- Whether the date of a scalar is in the calendar. -/
def isInCalendar (value : Scalar) : Bool :=
  ((dateOf? value).bind Calendar.dateFault?).isNone

end AppSync.Toml
