/-! Spans of time as they show in messages. -/

namespace AppSync.Calendar

/-- A span of seconds by its whole days and the seconds beyond them; parts that are zero are left out. -/
def spanText (span : Int) : String :=
  let days := span / 86400
  let seconds := span % 86400
  let parts := (if days = 0 then [] else [s!"days={days}"]) ++
    (if seconds = 0 then [] else [s!"seconds={seconds}"])
  "datetime.timedelta(" ++
    (if parts.isEmpty then "0" else String.intercalate ", " parts) ++ ")"

end AppSync.Calendar
