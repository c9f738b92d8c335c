import AppSync.Disk
import AppSync.Generation.Basic

/-!
Writing the two documents side by side. Both are stored under other names first and then take
their places, so that no document is ever seen half written.
-/

namespace AppSync

/-- What was written: the paths that were filled, and whether a failure ended it. -/
structure Written where
  created : List Path
  hasFailed : Bool
deriving DecidableEq, Repr

namespace Writing

variable {m : Type → Type} [Monad m]

/-- The parts by which two new files next to others get names of their own. -/
structure Tags where
  schema : String
  manifest : String
deriving DecidableEq, Repr

/-- A document on its way to its place. -/
structure Document where
  target : Path
  staged : Path
  text : String
deriving DecidableEq, Repr

/-- The path of a new file next to a target. -/
def stagedPath (target : Path) (tag : String) : Path :=
  target.parent.entry ("." ++ target.name ++ "." ++ tag ++ ".tmp")

/-- A document for a name in a directory. -/
def documentFor (directory : Path) (name : PlainName) (tag text : String) : Document :=
  let target := directory.entry name.1
  ⟨target, stagedPath target tag, text⟩

/-- The two documents, the schema first. -/
def documents (tags : Tags) (artifacts : Artifacts) (directory : Path) (config : Config) :
    List Document :=
  [documentFor directory config.schemaFileName tags.schema artifacts.sdl,
    documentFor directory config.resolverFileName tags.manifest artifacts.manifest]

/-- The fault of documents of which one is empty. -/
def incompleteFault : Fault :=
  Fault.generation "Refusing to write an incomplete schema/manifest pair" none

/-- What is reported where documents cannot be stored. -/
def failureMessage (directory : Path) : String :=
  "Failed to write artifacts to " ++ directory.toString

/-- Takes staged documents away. -/
def discard (disk : Disk m) : List Document → m Unit
  | [] => pure ()
  | document :: rest => do
    let _ ← disk.perform (.remove document.staged)
    discard disk rest

/-- How staging ended. -/
inductive Staging where
  | complete
  | failed
  | accident (accident : Accident)
deriving DecidableEq

/-- The bytes that are stored of a document; one that cannot be encoded leaves an empty file. -/
def storedBytes (document : Document) : List UInt8 :=
  if Text.hasHalves document.text then [] else Utf8.encode document.text

/-- Stages documents in order; after a failure those that were staged are taken away again. -/
def stage (disk : Disk m) (staged : List Document) : List Document → m Staging
  | [] => return .complete
  | document :: rest => do
    match ← disk.perform (.create document.staged (storedBytes document)) with
    | .done =>
      match Text.unencodableHalves? document.text with
      | some complaint => return .accident (.unencodable complaint)
      | none => stage disk (staged ++ [document]) rest
    | .nulInPath => return .accident .nulInPath
    | _ => do
      discard disk staged
      return .failed

/-- Moves staged documents to their places in order, up to the first that cannot be moved. -/
def place (disk : Disk m) (created : List Path) : List Document → m Written
  | [] => return ⟨created, false⟩
  | document :: rest => do
    match ← disk.perform (.rename document.staged document.target) with
    | .done => place disk (created ++ [document.target]) rest
    | _ => return ⟨created, true⟩

/-- Stages all documents and moves them; what is left of a failure is taken away. -/
def store (disk : Disk m) (documents : List Document) : m (Except Trouble Written) := do
  match ← stage disk [] documents with
  | .accident accident => return .error (.accident accident)
  | .failed => return .ok ⟨[], true⟩
  | .complete =>
    let written ← place disk [] documents
    if written.hasFailed then discard disk documents
    return .ok written

/-- Writes both documents into a directory, which is made if it is not there. -/
def write (disk : Disk m) (tags : Tags) (artifacts : Artifacts) (directory : Path)
    (config : Config) : m (Except Trouble Written) := do
  if !artifacts.isComplete then return .error (.fault incompleteFault)
  match ← disk.makeDirectories directory with
  | some accident => return .error (.accident accident)
  | none => store disk (documents tags artifacts directory config)

end Writing

end AppSync
