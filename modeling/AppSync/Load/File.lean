import AppSync.Load.Document
import AppSync.Text.Line
import AppSync.Yaml.Meaning

/-! Loading a document from a file: its bytes, its text, its value, its entries. -/

namespace AppSync.Load

/-- The fault of a path without a file. -/
def missingFile (path : Path) : Trouble :=
  .fault (Fault.load ("IR document not found: " ++ path.toString) (some path) none)

/-- The trouble of a text that has no value. -/
def unreadable (path : Path) (text : List Char) : Yaml.Failure → Trouble
  | .accident accident => .accident accident
  | .unacceptable found position =>
    .fault (Fault.load ("Invalid YAML/JSON: " ++ Yaml.unacceptableMessage found position)
      (some path) none)
  | .fault fault =>
    .fault (Fault.load ("Invalid YAML/JSON: " ++ fault.message text) (some path)
      (some (fault.mark.line + 1)))

/-- The value that a text describes. -/
def readText (path : Path) (text : List Char) : Except Trouble Value :=
  (Yaml.valueOf text).mapError (unreadable path text)

/-- The entries of a document; null stands for none, and other values are no documents. -/
def documentEntries (path : Path) (value : Value) : Except Trouble Entries :=
  match value.unfolded with
  | .scalar .null => .ok []
  | .mapping entries => .ok entries
  | _ =>
    .error (.fault (Fault.load "IR document must be a mapping at the top level" (some path) none))

/-- The value of the document that stands at a path. -/
def readStored (path : Path) : Option Stored → Except Trouble Value
  | none => .error (missingFile path)
  | some stored => do
    let text ← decodedText (← stored.bytes path)
    readText path (Text.unifyNewlines text.toList)

/-- Loads the document that stands at a path. -/
def loadStored (path : Path) (stored : Option Stored) : Except Trouble Report := do
  loadFresh (← documentEntries path (← readStored path stored))

end AppSync.Load
