import AppSync.Command.Run
import Std.Time.DateTime.Timestamp

/-! The program, run on the disk, the clock and the terminal of a machine. -/

namespace AppSync.Machine

/-- What an error of the machine says of a change. -/
def replyOf : IO.Error → Reply
  | .noFileOrDirectory .. => .missing
  | .inappropriateType .. => .throughFile
  | .invalidArgument .. => .longName
  | _ => .refused

/-- What stands at a path. -/
def look (path : Path) : IO (Except Accident (Option Stored)) := do
  try
    return .ok (some (.file (← IO.FS.readBinFile path.toString).toList))
  catch
    | .inappropriateType none _ _ => return .ok (some .directory)
    | .invalidArgument .. => return .error (.longName path)
    | _ => return .ok none

/-- Whether a directory stands at a path. -/
def isDirectory (path : Path) : IO Bool := do
  return (← look path).toOption = some (some .directory)

/-- Makes a directory where nothing is stored. -/
def makeDirectory (path : Path) : IO Reply := do
  try
    IO.FS.createDir path.toString
    return .done
  catch
    | .alreadyExists .. => return .taken (← isDirectory path)
    | error => return replyOf error

/-- Stores a file where nothing is stored. -/
def create (path : Path) (bytes : List UInt8) : IO Reply := do
  try
    let handle ← IO.FS.Handle.mk path.toString .writeNew
    handle.write (ByteArray.mk bytes.toArray)
    return .done
  catch
    | .alreadyExists .. => return .taken (← isDirectory path)
    | error => return replyOf error

/-- Does something that may fail. -/
def attempt (action : IO Unit) : IO Reply := do
  try
    action
    return .done
  catch error => return replyOf error

/-- Whether a path can be handed to the machine. -/
def hasNul (path : Path) : Bool :=
  path.toString.toList.contains '\x00'

/-- Changes what is stored. -/
def perform : Change → IO Reply
  | .makeDirectory path => if hasNul path then return .nulInPath else makeDirectory path
  | .create path bytes => if hasNul path then return .nulInPath else create path bytes
  | .rename source target =>
    if hasNul source || hasNul target then return .nulInPath
    else attempt (IO.FS.rename source.toString target.toString)
  | .remove path =>
    if hasNul path then return .nulInPath else attempt (IO.FS.removeFile path.toString)

/-- The disk of the machine. -/
def disk : Disk IO where
  look path := if hasNul path then return .ok none else look path
  perform := perform

/-- The moment from which the machine counts seconds. -/
def epoch : Moment := ⟨⟨1970, 1, 1⟩, ⟨0, 0, 0, 0⟩, some 0⟩

/-- The moment that the clock shows, in UTC. -/
def now : IO Moment := do
  let milliseconds := (← Std.Time.Timestamp.now).toMillisecondsSinceUnixEpoch.val.toNat
  let seconds := Calendar.localSeconds epoch + milliseconds / 1000
  let (date, clock) := Calendar.ofSeconds seconds (milliseconds % 1000 * 1000)
  return ⟨date, clock, some 0⟩

/-- A name part that no other file is likely to have. -/
def tag : IO String := do
  let bytes ← IO.getRandomBytes 8
  return String.ofList (bytes.toList.map fun byte => Char.ofNat ('a'.toNat + byte.toNat % 26))

/-- The variable of the environment that sets which notes are shown. -/
def logVariable : String := "LAMBDA_GRAPHQL_LOG_LEVEL"

/-- What a run is told about the machine. -/
def surroundings : IO Command.Surroundings := do
  return {
    platform := "Lean 4"
    now := ← now
    logSetting := ← IO.getEnv logVariable
    tags := ⟨← tag, ← tag⟩ }

/-- Tells the terminal how a run ended, where the run itself has not. -/
def tellEnding (result : Except Command.Ending Unit) : IO Unit := do
  match result with
  | .error .misuse => for line in Command.usage do IO.eprintln line
  | .error (.accident accident) => IO.eprintln accident.message
  | _ => return ()

end AppSync.Machine

/-- Runs the program with its arguments. -/
def main (arguments : List String) : IO UInt32 := do
  let surroundings ← AppSync.Machine.surroundings
  let done ← AppSync.Command.run AppSync.Machine.disk surroundings arguments
  for note in done.notes do
    IO.eprintln (AppSync.Calendar.stamp surroundings.now ++ " - " ++ note.text)
  for line in done.lines do IO.println line
  AppSync.Machine.tellEnding done.result
  return UInt32.ofNat done.exitCode
