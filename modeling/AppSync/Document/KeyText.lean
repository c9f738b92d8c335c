import AppSync.Calendar.Span
import AppSync.Document.Value
import AppSync.Number.Written
import AppSync.Text.Quoted

/-! The texts by which keys of mappings show in locations. -/

namespace AppSync

/-- A text in a location: marks stand in for halves of characters, one for each byte of them. -/
def textStep (value : String) : String :=
  String.ofList (value.toList.flatMap fun c =>
    if Text.carriesHalf c then List.replicate 3 '\ufffd' else [c])

/-- An integer in a location. -/
def integerStep (value : Int) : String :=
  if Number.isOverlong value then "<unprintable int object>" else toString value

/-- The step that a key of a mapping is in a location. -/
def Scalar.step : Scalar → String
  | .text value => textStep value
  | .bool value => if value then "1" else "0"
  | .int value => integerStep value
  | .float value => value.text
  | .null => "None"
  | .date day => s!"datetime.date({day.year}, {day.month}, {day.day})"
  | .time clock => s!"datetime.time({clock.hour}, {clock.minute}, {clock.second})"
  | .moment instant =>
    let day := instant.date
    let clock := instant.clock
    let parts := [day.year, day.month, day.day, clock.hour, clock.minute] ++
      (if clock.second = 0 ∧ clock.microsecond = 0 then [] else [clock.second]) ++
      (if clock.microsecond = 0 then [] else [clock.microsecond])
    let zone := match instant.offset with
      | none => ""
      | some 0 => ", tzinfo=datetime.timezone.utc"
      | some offset => s!", tzinfo=datetime.timezone({Calendar.spanText offset})"
    "datetime.datetime(" ++ String.intercalate ", " (parts.map toString) ++ zone ++ ")"
  | .bytes raw => Text.quotedBytes raw

end AppSync
