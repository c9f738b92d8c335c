import AppSync.Generation.Basic
import AppSync.Log

/-! What generating the documents notes in the log. -/

namespace AppSync.Generation

/-- The note on the size of a schema. -/
def startNote (schema : Schema) : Log.Note :=
  ⟨.generation, .info,
    s!"Generating schema: {schema.types.length} types, {schema.operations.length} operations"⟩

/-- The note on directives that are left out of an enum. -/
def droppedNote (dropped : String × Nat) : Log.Note :=
  ⟨.schemaPrinting, .debug, s!"Dropping {dropped.2} directive(s) from enum {dropped.1}"⟩

/-- The note on a conflict that is let pass. -/
def conflictNote (conflict : Conflict) : Log.Note :=
  ⟨.manifestBuilding, .warning, s!"{conflict.message}; keeping '{conflict.kept}'"⟩

/-- The note on the number of data sources. -/
def endNote (manifest : Manifest) : Log.Note :=
  ⟨.generation, .info, s!"Generated {manifest.sources.length} data source(s)"⟩

/-- The notes on a run, which end where it fails. -/
def notes (schema : Schema) (config : Config) (moment : Moment) : List Log.Note :=
  startNote schema :: (Sdl.droppedDirectives schema.types).map droppedNote ++
    match checkedDocument schema config, manifest schema config moment with
    | .ok _, .ok manifest => manifest.conflicts.map conflictNote ++ [endNote manifest]
    | _, _ => []

end AppSync.Generation
