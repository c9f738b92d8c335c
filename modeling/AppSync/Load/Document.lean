import AppSync.Load.Extraction
import AppSync.Trouble

/-! Loading a document: every usable type and operation is kept, the others are diagnosed. -/

namespace AppSync

/-- A schema built from a document, and all that was noticed. -/
structure Report where
  schema : Schema
  diagnostics : List Diagnostic

/-- The number of types and operations that were left out. -/
def Report.excluded (report : Report) : Nat :=
  (report.diagnostics.filter fun diagnostic => diagnostic.severity ≠ .info).length

namespace Load

/-- Loading, which leaves its trail whatever its end is. -/
abbrev Loading := ExceptT Trouble (StateM Trail)

/-- Runs one extraction; its fault is a value here, and its accident ends the loading. -/
def attempt {α : Type} (extraction : Extraction α) : Loading (Except ExtractionFault α) := do
  match ← ExceptT.lift extraction.run with
  | .ok value => return .ok value
  | .error (.fault fault) => return .error fault
  | .error (.accident accident) => throw (.accident accident)

/-- The types among values, counting from an index; a name that is taken is not taken again. -/
def types (taken : List String) : Nat → List Value → Loading (List NamedType × List Diagnostic)
  | _, [] => pure ([], [])
  | index, value :: rest => do
    let location := s!"types[{index}]"
    match ← attempt (Extraction.type location value) with
    | .error fault =>
      let (kept, notes) ← types taken (index + 1) rest
      return (kept, Extraction.typeFailure location value fault :: notes)
    | .ok type =>
      -- A type that is left out takes no name.
      if type.name ∈ taken then
        let (kept, notes) ← types taken (index + 1) rest
        return (kept, Extraction.duplicateType location type :: notes)
      else
        let (kept, notes) ← types (type.name :: taken) (index + 1) rest
        return (type :: kept, notes)

/-- The operations among values, counting from an index. -/
def operations (taken : List (Root × String)) : Nat → List Value →
    Loading (List Operation × List Diagnostic)
  | _, [] => pure ([], [])
  | index, value :: rest => do
    let location := s!"operations[{index}]"
    match ← attempt (Extraction.operation location value) with
    | .error fault =>
      let (kept, notes) ← operations taken (index + 1) rest
      return (kept, Extraction.operationFailure location value fault :: notes)
    | .ok (operation, fallback) =>
      -- The note on a fallback stays even where the operation turns out a duplicate.
      let note := (fallback.map (Extraction.fallbackNote location)).toList
      if operation.key ∈ taken then
        let (kept, notes) ← operations taken (index + 1) rest
        return (kept, note ++ Extraction.duplicateOperation location operation :: notes)
      else
        let (kept, notes) ← operations (operation.key :: taken) (index + 1) rest
        return (operation :: kept, note ++ notes)

/-- The fault of a top-level key that holds no list. -/
def notListFault (key typeName : String) : Fault :=
  ⟨.validation, s!"'{key}' must be a list, got {typeName}", some ⟨none, some key, none⟩⟩

/-- The items at a top-level key; an absent key and null hold none. -/
def topLevelItems (key : String) (entries : Entries) : Except Fault (List Value) :=
  match (Extraction.given? key entries).map Value.unfolded with
  | none => .ok []
  | some (.list items) => .ok items
  | some value => .error (notListFault key value.typeName)

/-- Usable types and operations, with all diagnostics in document order, types first. -/
structure Extracted where
  types : List NamedType
  operations : List Operation
  diagnostics : List Diagnostic

/-- Extracts what a document declares. -/
def extract (entries : Entries) : Loading Extracted := do
  let declaredTypes ← liftExcept (topLevelItems "types" entries)
  let (keptTypes, typeNotes) ← types [] 0 declaredTypes
  let declaredOperations ← liftExcept (topLevelItems "operations" entries)
  let (keptOperations, operationNotes) ← operations [] 0 declaredOperations
  return ⟨keptTypes, keptOperations, typeNotes ++ operationNotes⟩
where
  /-- A fault that does not depend on the cache. -/
  liftExcept {α : Type} (result : Except Fault α) : Loading α :=
    match result with
    | .ok value => pure value
    | .error fault => throw (.fault fault)

/-- The fault of a schema whose parts do not fit together. -/
def invalidSchema (problems : List Problem) : Fault :=
  ⟨.validation, Problem.summary problems, some ⟨none, some "<schema>", none⟩⟩

/-- Puts a schema together; its description has to be null or a text. -/
def assemble (extracted : Extracted) (description : Option Value) : Except Fault Schema :=
  match Reading.below "description"
      (Reading.nullable Reading.text (description.getD .null)) with
  | .error problems => .error (invalidSchema problems)
  | .ok text =>
    match Schema.make extracted.types extracted.operations text with
    | .ok schema => .ok schema
    | .error refusal => .error (invalidSchema [⟨[], .refused refusal⟩])

/-- Loads the entries of a document by way of a cache. -/
def load (entries : Entries) : Loading Report := do
  let extracted ← extract entries
  match assemble extracted (entries.get? "description") with
  | .ok schema => return ⟨schema, extracted.diagnostics⟩
  | .error fault => throw (.fault fault)

/-- Loads the entries of a document with a cache of its own. -/
def loadFresh (entries : Entries) : Except Trouble Report :=
  ((load entries).run {}).1

end Load

end AppSync
