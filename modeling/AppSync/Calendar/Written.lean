import AppSync.Calendar.Basic
import AppSync.Text.Digit

/-! Moments as a user writes them: `2024-01-15T10:30:00Z`, with or without the final letter. -/

namespace AppSync.Calendar

/-- A number of one or two digits. The last digit may be of any script where the one before it, or
its absence, is free to be followed by such a digit. -/
def shortNumber? (isFree : Option Nat → Bool) : List Char → Option Nat
  | [ones] => if isFree none then Text.digit? ones else Text.plainDigit? ones
  | [tens, ones] => do
    let tens ← Text.plainDigit? tens
    let ones ← if isFree (some tens) then Text.digit? ones else Text.plainDigit? ones
    return 10 * tens + ones
  | _ => none

/-- A year, which has four digits. -/
def writtenYear? (chars : List Char) : Option Nat :=
  if chars.length = 4 then
    (chars.mapM Text.digit?).map fun digits => digits.foldl (fun year digit => 10 * year + digit) 0
  else none

/-- A month. -/
def writtenMonth? : List Char → Option Nat :=
  shortNumber? fun _ => false

/-- A day of a month, with a digit or a blank in front of a single digit. -/
def writtenDay? : List Char → Option Nat
  | ' ' :: ones => if ones.length = 1 then shortNumber? (fun _ => false) ones else none
  | chars => shortNumber? (fun tens => tens = some 1 ∨ tens = some 2) chars

/-- An hour. -/
def writtenHour? : List Char → Option Nat :=
  shortNumber? fun tens => tens ≠ some 2

/-- A minute or a second. -/
def writtenMinute? : List Char → Option Nat :=
  shortNumber? fun _ => true

/-- The part of a text before one of two marks, and the rest behind it. -/
def partBefore? (mark other : Char) (chars : List Char) : Option (List Char × List Char) :=
  let isOther (c : Char) : Bool := c != mark && c != other
  match chars.dropWhile isOther with
  | _ :: rest => some (chars.takeWhile isOther, rest)
  | [] => none

/-- A text without the letter that may end it. -/
def withoutZone (chars : List Char) : List Char :=
  match chars.getLast? with
  | some last => if last = 'Z' ∨ last = 'z' then chars.dropLast else chars
  | none => chars

/-- The moment that a text writes, if the calendar has it. -/
def written? (text : String) : Option Moment := do
  let (year, rest) ← partBefore? '-' '-' text.toList
  let (month, rest) ← partBefore? '-' '-' rest
  let (day, rest) ← partBefore? 'T' 't' rest
  let (hour, rest) ← partBefore? ':' ':' rest
  let (minute, rest) ← partBefore? ':' ':' rest
  let date : Date := ⟨← writtenYear? year, ← writtenMonth? month, ← writtenDay? day⟩
  let clock : Clock :=
    ⟨← writtenHour? hour, ← writtenMinute? minute, ← writtenMinute? (withoutZone rest), 0⟩
  if (dateFault? date).isNone ∧ (clockFault? clock).isNone then some ⟨date, clock, none⟩ else none

end AppSync.Calendar
