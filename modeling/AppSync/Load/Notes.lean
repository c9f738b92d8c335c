import AppSync.Load.File
import AppSync.Log

/-! What loading a document notes in the log. -/

namespace AppSync.Load

/-- The note on a declared return type that became a list. -/
def wrappingNote (wrapping : String × String) : Log.Note :=
  ⟨.resolving, .debug, s!"Wrapping declared return type {wrapping.1} as list {wrapping.2}"⟩

/-- The note on a diagnostic. -/
def diagnosticNote (diagnostic : Diagnostic) : Log.Note :=
  ⟨.loading, if diagnostic.severity = .info then .info else .warning, diagnostic.text⟩

/-- The notes on the entries of a document; a schema that does not fit together changes nothing. -/
def entryNotes (entries : Entries) : List Log.Note :=
  let (extracted, trail) := (extract entries).run {}
  trail.wrappings.map wrappingNote ++
    match extracted with
    | .ok extracted => extracted.diagnostics.map diagnosticNote
    | .error _ => []

/-- The notes on the value of the document at a path. -/
def valueNotes (path : Path) (value : Value) : List Log.Note :=
  match value.unfolded with
  | .scalar .null => [⟨.loading, .warning, "Empty IR document at " ++ path.toString⟩]
  | .mapping entries => entryNotes entries
  | _ => []

/-- The notes on what stands at a path. -/
def storedNotes (path : Path) (stored : Option Stored) : List Log.Note :=
  match readStored path stored with
  | .ok value => valueNotes path value
  | .error _ => []

end AppSync.Load
