import AppSync.Trouble

/-! What a run asks of the place where files are kept. -/

namespace AppSync

/-- A change of what is stored. -/
inductive Change where
  | makeDirectory (path : Path)
  /-- Stores a file where nothing is stored yet. -/
  | create (path : Path) (bytes : List UInt8)
  /-- Moves a file to another path, where it replaces a file. -/
  | rename (source target : Path)
  /-- Takes a file away, if it is there. -/
  | remove (path : Path)
deriving DecidableEq, Repr

/-- What becomes of a change. -/
inductive Reply where
  | done
  /-- The directory that the path leads through is not there. -/
  | missing
  /-- Something is stored there already. -/
  | taken (isDirectory : Bool)
  /-- The path leads through a file. -/
  | throughFile
  /-- A name on the path is too long. -/
  | longName
  /-- The path holds the character of code zero. -/
  | nulInPath
  | refused
deriving DecidableEq, Repr

/-- A place where files are kept: looking at a path, and changing what is stored. -/
structure Disk (m : Type → Type) where
  /-- What stands at a path; a path that is too long to be looked at is an accident. -/
  look : Path → m (Except Accident (Option Stored))
  perform : Change → m Reply

namespace Disk

variable {m : Type → Type} [Monad m]

/-- The accident of a directory that cannot be made. -/
def directoryAccident (path : Path) : Reply → Option Accident
  | .done => none
  | .taken true => none
  | .taken false => some (.occupied path)
  | .missing => some (.missingParent path)
  | .throughFile => some (.throughFile path)
  | .longName => some (.longName path)
  | .nulInPath => some .nulInPath
  | .refused => some (.throughFile path)

/-- Makes a directory whose parent is there, unless it is there itself. -/
def makeChild (disk : Disk m) (path : Path) : m (Option Accident) := do
  return directoryAccident path (← disk.perform (.makeDirectory path))

/-- Makes the directory with given components, the last one first, and all that lead to it. -/
def makeAll (disk : Disk m) (root : String) : List String → m (Option Accident)
  | [] => disk.makeChild ⟨root, []⟩
  | name :: parents => do
    let path : Path := ⟨root, (name :: parents).reverse⟩
    match ← disk.perform (.makeDirectory path) with
    | .missing =>
      match ← makeAll disk root parents with
      | some accident => return some accident
      | none => disk.makeChild path
    | reply => return directoryAccident path reply

/-- Makes a directory and all that lead to it, unless it is there. -/
def makeDirectories (disk : Disk m) (path : Path) : m (Option Accident) :=
  disk.makeAll path.root path.components.reverse

end Disk

end AppSync
