import AppSync.Accident
import AppSync.Config.Basic
import AppSync.Manifest
import AppSync.Sdl.Check
import AppSync.Sdl.Printer

/-! Generation: the schema document and the manifest of one schema, made together. -/

namespace AppSync

/-- The two documents, and what was noticed while they were made. -/
structure Artifacts where
  sdl : String
  manifest : String
  diagnostics : List Diagnostic

/-- Both documents are there. -/
def Artifacts.isComplete (artifacts : Artifacts) : Bool :=
  artifacts.sdl ≠ "" && artifacts.manifest ≠ ""

namespace Generation

/-- The schema document of a schema under settings, unless it cannot be written. -/
def document? (schema : Schema) (config : Config) : Option String :=
  Sdl.writtenSchema? schema config.schemaDescription

/-- The fault of a generation that ends before its time. -/
def failure (message : String) : Fault :=
  Fault.generation ("Failed to generate GraphQL schema: " ++ message) none

/-- The fault of a schema document that cannot be read, or of which not even that can be said. -/
def invalidDocument : Sdl.GrammarFault → Fault
  | .lexical (.loneHalf isLast) => failure (Sdl.LexicalFault.loneHalf isLast).message
  | fault => Fault.generation (Sdl.invalidMessage fault) none

/-- Checks a document where the settings ask for it. -/
def checked (config : Config) (document : String) : Except Fault Unit :=
  if config.validateSdl then (Sdl.check document).mapError invalidDocument else .ok ()

/-- The schema document of a schema under settings, checked. -/
def checkedDocument (schema : Schema) (config : Config) : Except Fault String := do
  match document? schema config with
  | none => throw (failure Accident.overlongInteger.message)
  | some sdl =>
    checked config sdl
    return sdl

/-- The fault of a manifest that is not made. -/
def manifestFault : Manifest.Failure → Fault
  | .conflict conflict => conflict.fault
  | .outOfCalendar => failure Calendar.outOfRangeMessage

/-- The manifest of a schema under settings. -/
def manifest (schema : Schema) (config : Config) (moment : Moment) : Except Fault Manifest :=
  (Manifest.build config.strictDataSources schema.operations moment).mapError manifestFault

/-- Generates both documents, or neither. -/
def generate (schema : Schema) (config : Config) (moment : Moment) : Except Fault Artifacts := do
  let sdl ← checkedDocument schema config
  let manifest ← manifest schema config moment
  return ⟨sdl, manifest.text, manifest.diagnostics⟩

end Generation

end AppSync
