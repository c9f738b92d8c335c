import AppSync.Calendar.Basic
import AppSync.Calendar.Span
import AppSync.Number.Written
import AppSync.Path
import AppSync.Text.Quoted
import AppSync.Text.Utf8

/-! Accidents: what ends a run without a report of the program's own making. -/

namespace AppSync

/-- Why a run ended by accident. -/
inductive Accident where
  /-- Bytes are no text. -/
  | undecodable (error : Utf8.Error)
  /-- A text is no integer in a base. -/
  | numeral (base : Nat) (text : String)
  /-- A text is no number. -/
  | decimal (text : String)
  /-- A decimal integer has more digits than are read. -/
  | longNumeral (digits : Nat)
  /-- A decimal integer has more digits than are written. -/
  | overlongInteger
  /-- A text has halves of characters in it that cannot be encoded. -/
  | unencodable (complaint : String)
  /-- A number has no character. -/
  | emptyNumeral
  /-- An integer exceeds every finite number. -/
  | unboundedNumber
  /-- Numbers name no date or time of day. -/
  | calendar (fault : Calendar.Fault)
  /-- An offset from UTC reaches a whole day. -/
  | offset (seconds : Int)
  /-- A mapping is tagged as a moment. -/
  | mappedMoment
  /-- A text tagged as a moment has not the form of one. -/
  | shapelessMoment
  /-- A word tagged as a truth value is none. -/
  | truth (word : String)
  /-- A code is beyond the last character. -/
  | character (code : Nat)
  /-- A value without entries stands in place of a table. -/
  | noEntries (typeName : String)
  /-- A directory stands in place of a file. -/
  | directory (path : Path)
  /-- A file stands in place of a directory. -/
  | occupied (path : Path)
  /-- A file stands in place of a parent directory. -/
  | throughFile (path : Path)
  /-- The parent of a directory is not there. -/
  | missingParent (path : Path)
  /-- A name on a path is too long. -/
  | longName (path : Path)
  /-- A path holds the character of code zero. -/
  | nulInPath
  /-- A closing mark closes nothing that is open. -/
  | unopenedMark (mark : String) (position : Nat)
  /-- The parameters of an action contain something else than the literal that belongs there. -/
  | actionParameters (literal parameters reason : String)
deriving DecidableEq, Repr

namespace Accident

/-- The largest code that is looked up as a character at all. -/
def codeLimit : Nat := 0x7fffffff

/-- The sentence that states an accident. -/
def message : Accident → String
  | undecodable error => error.message
  | numeral base text =>
    s!"invalid literal for int() with base {base}: " ++ Text.quoted text
  | decimal text => "could not convert string to float: " ++ Text.quoted text
  | longNumeral digits =>
    s!"Exceeds the limit ({Number.digitLimit} digits) for integer string conversion: " ++
      s!"value has {digits} digits; use sys.set_int_max_str_digits() to increase the limit"
  | overlongInteger =>
    s!"Exceeds the limit ({Number.digitLimit} digits) for integer string conversion; " ++
      "use sys.set_int_max_str_digits() to increase the limit"
  | unencodable complaint => complaint
  | emptyNumeral => "string index out of range"
  | unboundedNumber => "int too large to convert to float"
  | calendar fault => fault.message
  | offset seconds =>
    "offset must be a timedelta strictly between -timedelta(hours=24) and timedelta(hours=24), " ++
      "not " ++ Calendar.spanText seconds ++ "."
  | mappedMoment => "expected string or bytes-like object, got 'list'"
  | shapelessMoment => "'NoneType' object has no attribute 'groupdict'"
  | truth word => Text.quoted word
  | character code =>
    if code ≤ codeLimit then "chr() arg not in range(0x110000)"
    else "Python int too large to convert to C int"
  | noEntries typeName => s!"'{typeName}' object has no attribute 'get'"
  | directory path => "[Errno 21] Is a directory: " ++ Text.quoted path.toString
  | occupied path => "[Errno 17] File exists: " ++ Text.quoted path.toString
  | throughFile path => "[Errno 20] Not a directory: " ++ Text.quoted path.toString
  | missingParent path => "[Errno 2] No such file or directory: " ++ Text.quoted path.toString
  | longName path => "[Errno 36] File name too long: " ++ Text.quoted path.toString
  | nulInPath => "embedded null byte"
  | unopenedMark mark position =>
    if mark = "[/]" then s!"closing tag '[/]' at position {position} has nothing to close"
    else s!"closing tag '{mark}' at position {position} doesn't match any open tag"
  | actionParameters literal parameters reason =>
    "error parsing " ++ Text.quoted literal ++ " in " ++ Text.quoted parameters ++ "; " ++ reason

end Accident

end AppSync
