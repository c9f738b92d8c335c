import AppSync.Accident
import AppSync.Fault

/-! Troubles: what keeps an activity from its result, reported as a fault or met by accident. -/

namespace AppSync

/-- A fault or an accident. -/
inductive Trouble where
  | fault (fault : Fault)
  | accident (accident : Accident)
deriving DecidableEq, Repr

/-- The text of a trouble. -/
def Trouble.text : Trouble → String
  | .fault found => found.text
  | .accident found => found.message

/-- What stands at a path. -/
inductive Stored where
  | file (bytes : List UInt8)
  | directory
deriving DecidableEq, Repr

/-- The bytes of a file; a directory in its place is an accident. -/
def Stored.bytes (path : Path) : Stored → Except Trouble (List UInt8)
  | .file bytes => .ok bytes
  | .directory => .error (.accident (.directory path))

/-- The text that bytes encode; bytes that encode none are an accident. -/
def decodedText (bytes : List UInt8) : Except Trouble String :=
  (Utf8.decode bytes).mapError fun error => .accident (.undecodable error)

end AppSync
