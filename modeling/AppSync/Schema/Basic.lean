import AppSync.Schema.Operation

/-! A schema: named types and root operations without clashes of names. -/

namespace AppSync

/-- The first type whose name is taken by an earlier one or reserved for a root. -/
def typeClash? : List String → List NamedType → Option Refusal
  | _, [] => none
  | taken, type :: rest =>
    if type.name ∈ taken then some (.duplicateType type.name)
    else if Root.isName type.name then some (.reservedType type.name)
    else typeClash? (type.name :: taken) rest

/-- The first operation whose root and field are taken by an earlier one. -/
def operationClash? : List (Root × String) → List Operation → Option Refusal
  | _, [] => none
  | taken, operation :: rest =>
    if operation.key ∈ taken then some (.duplicateOperation operation.qualifiedName)
    else operationClash? (operation.key :: taken) rest

/-- Types without a clash have distinct names, none of them taken or that of a root. -/
theorem distinct_of_typeClash? {taken : List String} {types : List NamedType}
    (clear : typeClash? taken types = none) :
    (types.map NamedType.name).Nodup ∧
      ∀ type ∈ types, type.name ∉ taken ∧ Root.isName type.name = false := by
  -- Each step adds one name to those that the rest must avoid.
  induction types generalizing taken with
  | nil => simp
  | cons first rest ih =>
    simp only [typeClash?] at clear
    split at clear
    · simp at clear
    · rename_i fresh
      split at clear
      · simp at clear
      · rename_i free
        obtain ⟨distinct, avoid⟩ := ih clear
        refine ⟨?_, ?_⟩
        · simp only [List.map_cons, List.nodup_cons, List.mem_map, not_exists, not_and]
          refine ⟨fun type member same => ?_, distinct⟩
          exact (avoid type member).1 (by simp [same])
        · intro type member
          rcases List.mem_cons.1 member with same | member
          · subst same
            exact ⟨fresh, by simpa using free⟩
          · have apart := avoid type member
            exact ⟨fun taken => apart.1 (by simp [taken]), apart.2⟩

/-- Operations without a clash have distinct keys, none of them taken. -/
theorem distinct_of_operationClash? {taken : List (Root × String)} {operations : List Operation}
    (clear : operationClash? taken operations = none) :
    (operations.map Operation.key).Nodup ∧
      ∀ operation ∈ operations, operation.key ∉ taken := by
  -- Each step adds one key to those that the rest must avoid.
  induction operations generalizing taken with
  | nil => simp
  | cons first rest ih =>
    simp only [operationClash?] at clear
    split at clear
    · simp at clear
    · rename_i fresh
      obtain ⟨distinct, avoid⟩ := ih clear
      refine ⟨?_, ?_⟩
      · simp only [List.map_cons, List.nodup_cons, List.mem_map, not_exists, not_and]
        refine ⟨fun operation member same => ?_, distinct⟩
        exact avoid operation member (by simp [same])
      · intro operation member
        rcases List.mem_cons.1 member with same | member
        · subst same
          exact fresh
        · exact fun taken => avoid operation member (by simp [taken])

/-- Types and operations for one run, with distinct names; root type names stay free. -/
structure Schema where
  types : List NamedType
  operations : List Operation
  description : Option String
  typesDistinct : (types.map NamedType.name).Nodup
  typesFree : ∀ type ∈ types, Root.isName type.name = false
  operationsDistinct : (operations.map Operation.key).Nodup
deriving DecidableEq

namespace Schema

/-- The schema of types and operations, or the first clash of their names. -/
def make (types : List NamedType) (operations : List Operation) (description : Option String) :
    Except Refusal Schema :=
  match clearTypes : typeClash? [] types with
  | some refusal => .error refusal
  | none =>
    match clearOperations : operationClash? [] operations with
    | some refusal => .error refusal
    | none =>
      let distinct := distinct_of_typeClash? clearTypes
      .ok ⟨types, operations, description, distinct.1, fun type member => (distinct.2 type member).2,
        (distinct_of_operationClash? clearOperations).1⟩

/-- No types and no operations. -/
def isEmpty (schema : Schema) : Bool :=
  schema.types.isEmpty && schema.operations.isEmpty

/-- The root types that some operation belongs to, in the order of a schema. -/
def presentRoots (operations : List Operation) : List Root :=
  Root.all.filter fun root => operations.any fun operation => operation.root = root

/-- The root types of a schema. -/
def roots (schema : Schema) : List Root :=
  presentRoots schema.operations

/-- The parts of a schema as they are read, before names are compared. -/
def readParts (entries : Entries) :
    Reading (List NamedType × List Operation × Option String) :=
  (Reading.optional "types" (Reading.list NamedType.read) [] entries).map
      (fun types operations description => (types, operations, description))
    |> Reading.give (Reading.optional "operations" (Reading.list Operation.read) [] entries)
    |> Reading.give (Reading.optionalText "description" entries)

/-- Reads a schema. -/
def read (value : Value) : Reading Schema := do
  let entries ← Reading.record "SchemaSpec" value
  let (types, operations, description) ← readParts entries
  match make types operations description with
  | .ok schema => .ok schema
  | .error refusal => Reading.fail (.refused refusal)

/-- The document form of a schema. -/
def toJson (schema : Schema) : Json :=
  .object [
    ("types", .array (schema.types.map NamedType.toJson)),
    ("operations", .array (schema.operations.map Operation.toJson)),
    ("description", Json.ofText? schema.description)]

end Schema

end AppSync
