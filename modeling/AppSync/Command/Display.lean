import AppSync.Command.Activity
import AppSync.Console.Table
import AppSync.Load.Document
import AppSync.Source.Registry
import AppSync.Version
import AppSync.Writing

/-! What the commands show of schemas, diagnostics, files and scalars. -/

namespace AppSync.Command

open Activity

/-- Shows the size of a loaded schema. -/
def showSummary (report : Report) : Activity Unit := do
  let schema := report.schema
  print s!"  Types: {schema.types.length}"
  print s!"  Operations: {schema.operations.length}"
  if !schema.roots.isEmpty then
    print ("  Roots: " ++ String.intercalate ", " (schema.roots.map Root.name))
  if report.excluded ≠ 0 then print s!"  Excluded: {report.excluded}"
  print ""

/-- Shows that a schema holds nothing, if so. -/
def showEmptiness (report : Report) : Activity Unit :=
  if report.schema.isEmpty then print "IR document declares no types or operations\n" else pure ()

/-- The cells of a diagnostic. -/
def diagnosticCells (diagnostic : Diagnostic) : List String :=
  [diagnostic.code.identifier, diagnostic.severity.word, diagnostic.code.title,
    Console.escape ((diagnostic.location.filter (· ≠ "")).getD "-"),
    Console.escape diagnostic.message]

/-- Shows diagnostics, if there are any. -/
def showDiagnostics (diagnostics : List Diagnostic) : Activity Unit :=
  if diagnostics.isEmpty then pure ()
  else do
    showLines (Console.tableLines "Diagnostics"
      ["Code", "Severity", "Problem", "Location", "Message"] (diagnostics.map diagnosticCells))
    print ""

/-- Shows how many errors and warnings there are, which is a failure unless there are none. -/
def showVerdict (diagnostics : List Diagnostic) : Activity Unit :=
  if Diagnostic.anyWarning diagnostics then do
    let errors := (Diagnostic.ofSeverity .error diagnostics).length
    let warnings := (Diagnostic.ofSeverity .warning diagnostics).length
    print s!"Check finished with {errors} error(s) and {warnings} warning(s)"
    stop .failure
  else print "No problems found"

/-- The line on a document that would be written; brackets in its path are marks. -/
def previewLine (document : Writing.Document) : String :=
  s!"  - {document.target.toString} ({document.text.length} bytes)"

/-- Shows which documents would be written. -/
def showPreview (documents : List Writing.Document) : Activity Unit := do
  print "DRY RUN - No files will be written\n"
  print "Would generate:"
  printAll (documents.map previewLine)

/-- The note on a written document. -/
def writtenNote (path : Path) : Log.Note :=
  ⟨.writing, .info, "Wrote " ++ path.toString⟩

/-- Shows which documents were written. -/
def showSuccess (paths : List Path) : Activity Unit :=
  showLines (Console.panelLines "Success"
    (s!"[green]Generated {paths.length} files[/green]\n\n" ++
      String.intercalate "\n"
        (paths.map fun path => "[cyan]" ++ Console.escape path.toString ++ "[/cyan]")))

/-- Shows that documents were not written, which is a failure. -/
def showFailure (directory : Path) : Activity Unit := do
  print "\nWrite failed:"
  print ("  - " ++ Console.escapeInside (Writing.failureMessage directory))
  stop .failure

/-- Shows what came of writing into a directory. -/
def showWritten (directory : Path) (written : Except Trouble Written) : Activity Unit := do
  let written ← attempt written
  log (written.created.map writtenNote)
  if written.hasFailed then showFailure directory else showSuccess written.created

/-- The row of a scalar with the source types that become it. -/
def scalarCells (scalar : String) (otherwise : String) : List String :=
  let sources := Registry.sourcesOf scalar
  [scalar, if sources.isEmpty then otherwise else String.intercalate ", " sources]

/-- The rows of all scalars that source types become; the identifier scalar is not a custom one. -/
def scalarRows : List (List String) :=
  (Registry.customScalars.map fun scalar => scalarCells scalar.name "override only") ++
    if (Registry.sourcesOf Registry.identifierName).isEmpty then []
    else [scalarCells Registry.identifierName ""]

/-- Shows the scalars. -/
def showScalars : Activity Unit :=
  showLines (Console.tableLines "AWS AppSync Scalars" ["Scalar", "Source types"] scalarRows)

/-- How the program is used. -/
def usage : List String := [
  "Usage: lambda-graphql [--version] [--help] COMMAND",
  "",
  "Generate AppSync GraphQL schemas and resolver manifests",
  "",
  "Commands:",
  "  generate IR_FILE [--output DIRECTORY] [--config FILE] [--timestamp MOMENT]",
  "           [--strict] [--dry-run] [--verbose]",
  "  check IR_FILE [--config FILE] [--verbose]",
  "  scalars"]

/-- Shows how the program is used. -/
def showUsage : Activity Unit :=
  showLines (.ok usage)

/-- Shows the version, and what the program runs on. -/
def showVersion (platform : String) : Activity Unit := do
  print (Version.programName ++ " " ++ Version.current)
  print platform

end AppSync.Command
