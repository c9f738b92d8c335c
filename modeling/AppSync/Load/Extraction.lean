import AppSync.Accident
import AppSync.Diagnostic
import AppSync.Schema.Basic
import AppSync.Source.Returned

/-! Extracting single types and operations from a document, their source types resolved. -/

namespace AppSync

/-- Why one type or operation cannot be used. -/
inductive ExtractionFault where
  | notMapping (typeName : String)
  | reservedName (name : String)
  | notList (typeName : String)
  | memberNotMapping (location typeName : String)
  | invalidSource (location : String) (problems : List Problem)
  | unresolvable (location : String) (error : LookupFault)
  | returnTypeNotText (typeName : String)
  | invalid (problems : List Problem)
deriving DecidableEq, Repr

/-- The sentence that states why. -/
def ExtractionFault.message : ExtractionFault → String
  | .notMapping typeName => s!"expected a mapping, got {typeName}"
  | .reservedName name => s!"'{name}' is reserved for a root operation type"
  | .notList typeName => s!"expected a list, got {typeName}"
  | .memberNotMapping location typeName => s!"{location}: expected a mapping, got {typeName}"
  | .invalidSource location problems => location ++ ": " ++ Problem.summary problems
  | .unresolvable location error => location ++ ": " ++ error.message
  | .returnTypeNotText typeName => s!"return_type must be a string, got {typeName}"
  | .invalid problems => Problem.summary problems

/-- How an extraction ends without a result; an accident ends more than the extraction. -/
inductive ExtractionEnd where
  | fault (fault : ExtractionFault)
  | accident (accident : Accident)
deriving DecidableEq, Repr

/-- What extractions leave behind: a cache of resolved types, and declarations that became lists. -/
structure Trail where
  cache : TypeCache := {}
  wrappings : List (String × String) := []
deriving Inhabited

/-- Extraction, which leaves its trail whatever its end is. -/
abbrev Extraction := ExceptT ExtractionEnd (StateM Trail)

namespace Extraction

/-- Ends an extraction with a fault. -/
def refuse {α : Type} (fault : ExtractionFault) : Extraction α :=
  throw (.fault fault)

/-- How an extraction ends because of problems; some of them cannot be stated. -/
def endOf (fault : List Problem → ExtractionFault) (problems : List Problem) : ExtractionEnd :=
  match Problem.unstatable? problems with
  | some complaint => .accident (.unencodable complaint)
  | none => .fault (fault problems)

/-- A value that is read, its problems making a fault. -/
def ofReading {α : Type} (fault : List Problem → ExtractionFault) (reading : Reading α) :
    Extraction α :=
  match reading with
  | .ok value => pure value
  | .error problems => throw (endOf fault problems)

/-- The value at a key unless it is absent or null. -/
def given? (key : String) (entries : Entries) : Option Value :=
  match Entries.get? key entries with
  | some (.scalar .null) => none
  | found => found

/-- The items of a list; null counts as an empty one. -/
def itemsOf (value : Value) : Extraction (List Value) :=
  match value.unfolded with
  | .scalar .null => pure []
  | .list items => pure items
  | other => refuse (.notList other.typeName)

/-- The source type that a value names or describes. -/
def parseSource (location : String) (value : Value) : Extraction Source :=
  ofReading (.invalidSource location) (Source.ofValue value)

/-- The outcome of a lookup, with the cache as it is afterwards. -/
def ofLookup {α : Type} (location : String) (found : Except LookupFault α × TypeCache) :
    Extraction α := do
  modify fun trail => { trail with cache := found.2 }
  match found.1 with
  | .ok value => pure value
  | .error error => refuse (.unresolvable location error)

/-- The output type of a source type, by way of the cache. -/
def resolveSource (location : String) (source : Source) : Extraction ResolvedType := do
  ofLookup location ((← get).cache.resolve source)

/-- A field or argument whose source type, if it has one, is replaced by type and nullability. -/
def resolveMember (location : String) (nullable : Bool) (value : Value) : Extraction Value :=
  match value.unfolded with
  | .mapping entries =>
    let rest := Entries.erase "source" entries
    match given? "source" entries with
    | none => pure (.mapping (Entries.setDefault "is_nullable" (.bool nullable) rest))
    | some raw => do
      let source ← parseSource (location ++ ".source") raw
      let resolved ← resolveSource (location ++ ".source") source
      -- What the document states itself is kept.
      let typed := Entries.setDefault "type" (.text resolved.name) rest
      pure (.mapping (Entries.setDefault "is_nullable" (.bool resolved.isNullable) typed))
  | other => refuse (.memberNotMapping location other.typeName)

/-- Fields or arguments in order, counting from an index. -/
def resolveMembers (location : String) (nullable : Bool) : Nat → List Value →
    Extraction (List Value)
  | _, [] => pure []
  | index, value :: rest => do
    let member ← resolveMember s!"{location}[{index}]" nullable value
    return member :: (← resolveMembers location nullable (index + 1) rest)

/-- Entries in which the members at a key, if it is there, are resolved. -/
def resolveAt (key location : String) (nullable : Bool) (entries : Entries) :
    Extraction Entries :=
  match Entries.get? key entries with
  | none => pure entries
  | some value => do
    let members ← resolveMembers (location ++ "." ++ key) nullable 0 (← itemsOf value)
    pure (Entries.set (.text key) (.list members) entries)

/-- A type declaration. -/
def type (location : String) (value : Value) : Extraction NamedType :=
  match value.unfolded with
  | .mapping entries => do
    if let some (.scalar (.text name)) := Entries.get? "name" entries then
      if Root.isName name then refuse (.reservedName name)
    let resolved ← resolveAt "fields" location true entries
    ofReading .invalid (NamedType.read (.mapping resolved))
  | other => refuse (.notMapping other.typeName)

/-- The return type of operations that state none. -/
def fallbackReturnType : String := "String"

/-- The declared return type, which has to be a text if it is there. -/
def declaredReturn (entries : Entries) : Extraction (Option String) :=
  match given? "return_type" entries with
  | none => pure none
  | some (.scalar (.text name)) => pure (some name)
  | some value => refuse (.returnTypeNotText value.typeName)

/-- The return type that a source type and a declaration give, by way of the cache. -/
def returnedBy (location : String) (source : Source) (declared : Option String) :
    Extraction String := do
  let wrapped := (source.wrapping? declared).toList
  modify fun trail => { trail with wrappings := trail.wrappings ++ wrapped }
  ofLookup location (source.returned (← get).cache declared)

/-- How the note on a fallback shows the field of an operation; bytes are shown as such. -/
def shownField (entries : Entries) (field : String) : String :=
  match Entries.get? "field_name" entries with
  | some (.scalar (.bytes raw)) => Text.quotedBytes raw
  | _ => field

/-- An integer in the field of an operation that the note on a fallback cannot show. -/
def checkShown (entries : Entries) : Extraction Unit :=
  if (Entries.get? "field_name" entries).any Value.hasOverlong then throw (.accident .overlongInteger)
  else pure ()

/-- Entries with a return type; the flag tells that it is the fallback. -/
def resolveReturn (location : String) (entries : Entries) : Extraction (Entries × Bool) := do
  let rest := Entries.erase "source_return" entries
  let declared ← declaredReturn entries
  let place := location ++ ".source_return"
  match given? "source_return" entries with
  | some raw => do
    let text ← returnedBy place (← parseSource place raw) declared
    return (Entries.set (.text "return_type") (.text text) rest, false)
  | none =>
    if (Source.declaration? declared).isSome then return (rest, false)
    else do
      checkShown entries
      return (Entries.set (.text "return_type") (.text fallbackReturnType) rest, true)

/-- An operation declaration; where its return type is the fallback, it comes with its field. -/
def operation (location : String) (value : Value) : Extraction (Operation × Option String) :=
  match value.unfolded with
  | .mapping entries => do
    let (typed, isFallback) ← resolveReturn location entries
    let resolved ← resolveAt "arguments" location false typed
    let operation ← ofReading .invalid (Operation.read (.mapping resolved))
    return (operation, if isFallback then some (shownField entries operation.fieldName) else none)
  | other => refuse (.notMapping other.typeName)

/-- The text at a key of a mapping, if there is one. -/
def textAt? (key : String) (value : Value) : Option String :=
  match value.unfolded with
  | .mapping entries =>
    match Entries.get? key entries with
    | some (.scalar (.text text)) => some text
    | _ => none
  | _ => none

/-- The diagnostic for a type that is left out. -/
def typeFailure (location : String) (value : Value) (fault : ExtractionFault) : Diagnostic :=
  ⟨.typeExtraction, .warning, "Failed to extract type: " ++ fault.message, some location,
    textAt? "name" value⟩

/-- The diagnostic for an operation that is left out. -/
def operationFailure (location : String) (value : Value) (fault : ExtractionFault) : Diagnostic :=
  ⟨.operationExtraction, .warning, "Failed to extract operation: " ++ fault.message, some location,
    textAt? "field_name" value⟩

/-- The note on an operation that got the fallback return type. -/
def fallbackNote (location : String) (field : String) : Diagnostic :=
  ⟨.returnTypeFallback, .info,
    s!"Could not extract return type for operation '{field}', using fallback type: " ++
      fallbackReturnType, some location, some field⟩

/-- The diagnostic for a type whose name is taken. -/
def duplicateType (location : String) (type : NamedType) : Diagnostic :=
  ⟨.typeExtraction, .warning,
    s!"Duplicate type name '{type.name}', keeping the first declaration", some location,
    some type.name⟩

/-- The diagnostic for an operation whose root and field are taken. -/
def duplicateOperation (location : String) (operation : Operation) : Diagnostic :=
  ⟨.operationExtraction, .warning,
    s!"Duplicate operation '{operation.qualifiedName}', keeping the first declaration",
    some location, some operation.qualifiedName⟩

end Extraction

end AppSync
