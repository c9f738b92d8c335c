import AppSync.Proofs.Pairing
import AppSync.Schema.Basic
import Mathlib.Data.List.Nodup

/-!
Declarations with names of their own make a schema, in whatever order they come: types, operations,
and the fields or values of a type.
-/

namespace AppSync

/-- Types with names of their own, none of them taken or that of a root, do not clash. -/
theorem typeClash?_eq_none {taken : List String} {types : List NamedType}
    (distinct : (types.map NamedType.name).Nodup)
    (apart : ∀ type ∈ types, type.name ∉ taken ∧ Root.isName type.name = false) :
    typeClash? taken types = none := by
  -- Each name that is passed joins those taken, and the rest has other names.
  induction types generalizing taken with
  | nil => rfl
  | cons first rest ih =>
    obtain ⟨fresh, distinct⟩ := List.nodup_cons.mp distinct
    obtain ⟨untaken, free⟩ := apart first List.mem_cons_self
    rw [typeClash?, if_neg untaken, if_neg (by simp [free])]
    refine ih distinct fun type member => ?_
    have others := apart type (List.mem_cons_of_mem first member)
    refine ⟨fun taken => ?_, others.2⟩
    rcases List.mem_cons.mp taken with same | taken
    · exact fresh (same ▸ List.mem_map_of_mem member)
    · exact others.1 taken

/-- Operations with keys of their own, none of them taken, do not clash. -/
theorem operationClash?_eq_none {taken : List (Root × String)} {operations : List Operation}
    (distinct : (operations.map Operation.key).Nodup)
    (apart : ∀ operation ∈ operations, operation.key ∉ taken) :
    operationClash? taken operations = none := by
  -- Each key that is passed joins those taken, and the rest has other keys.
  induction operations generalizing taken with
  | nil => rfl
  | cons first rest ih =>
    obtain ⟨fresh, distinct⟩ := List.nodup_cons.mp distinct
    rw [operationClash?, if_neg (apart first List.mem_cons_self)]
    refine ih distinct fun operation member taken => ?_
    rcases List.mem_cons.mp taken with same | taken
    · exact fresh (same ▸ List.mem_map_of_mem member)
    · exact apart operation (List.mem_cons_of_mem first member) taken

/-- A schema that is made has the types and operations that it is made of. -/
theorem Schema.parts_of_make {types : List NamedType} {operations : List Operation}
    {description : Option String} {schema : Schema}
    (made : Schema.make types operations description = .ok schema) :
    schema.types = types ∧ schema.operations = operations := by
  unfold Schema.make at made
  -- Whatever checks are made, a schema that passes them is what was given.
  split at made
  · cases made
  · split at made
    · cases made
    · cases made
      exact ⟨rfl, rfl⟩

/-- Declarations that do not clash make a schema of just these. -/
theorem Schema.exists_make {types : List NamedType} {operations : List Operation}
    (typesDistinct : (types.map NamedType.name).Nodup)
    (typesFree : ∀ type ∈ types, Root.isName type.name = false)
    (operationsDistinct : (operations.map Operation.key).Nodup) (description : Option String) :
    ∃ schema, Schema.make types operations description = .ok schema ∧ schema.types = types ∧
      schema.operations = operations ∧ schema.description = description := by
  have clearTypes : typeClash? [] types = none :=
    typeClash?_eq_none typesDistinct fun type member =>
      ⟨List.not_mem_nil, typesFree type member⟩
  have clearOperations : operationClash? [] operations = none :=
    operationClash?_eq_none operationsDistinct fun operation _ => List.not_mem_nil
  -- It is refused for a clash only, and there is none.
  unfold Schema.make
  split
  · rename_i clash
    rw [clearTypes] at clash
    cases clash
  · split
    · rename_i clash
      rw [clearOperations] at clash
      cases clash
    · exact ⟨_, rfl, rfl, rfl, rfl⟩

/-- Operations of one root type have field names of their own. -/
theorem nodup_fieldNames {operations : List Operation}
    (distinct : (operations.map Operation.key).Nodup) (root : Root) :
    ((operations.filter fun operation => operation.root = root).map
      Operation.fieldName).Nodup := by
  have kept : ((operations.filter fun operation => operation.root = root).map
      Operation.key).Nodup := distinct.sublist (List.filter_sublist.map _)
  -- Within one root type the key is the name.
  have keys : (operations.filter fun operation => operation.root = root).map Operation.key =
      ((operations.filter fun operation => operation.root = root).map
        Operation.fieldName).map fun name => (root, name) := by
    rw [List.map_map]
    refine List.map_congr_left fun operation member => ?_
    have own : operation.root = root := by simpa using (List.mem_filter.mp member).2
    simp [Operation.key, own]
  rw [keys] at kept
  exact kept.of_map

/-- Lists in another order, if the names in them tell the items apart, or else the same list. -/
def Shuffled {α : Type} (name : α → String) (items others : List α) : Prop :=
  others = items ∨ ((items.map name).Nodup ∧ items.Perm others)

/-- Bodies of one kind, with fields or values in another order; members of a union keep theirs. -/
inductive ReorderedBody : TypeBody → TypeBody → Prop where
  | object {fields others : List Field} (shuffled : Shuffled Field.name fields others) :
    ReorderedBody (.object fields) (.object others)
  | input {fields others : List Field} (shuffled : Shuffled Field.name fields others) :
    ReorderedBody (.input fields) (.input others)
  | interface {fields others : List Field} (shuffled : Shuffled Field.name fields others) :
    ReorderedBody (.interface fields) (.interface others)
  | enum {values others : List EnumValue} (shuffled : Shuffled EnumValue.name values others) :
    ReorderedBody (.enum values) (.enum others)
  | union (members : List String) : ReorderedBody (.union members) (.union members)

/-- The same type with its fields or values in another order. -/
structure ReorderedType (type other : NamedType) : Prop where
  name : other.name = type.name
  description : other.description = type.description
  body : ReorderedBody type.body other.body
  directives : other.directives = type.directives

/-- The declarations of a schema in another order, of types and operations and inside of types. -/
structure Reordered (schema : Schema) (types : List NamedType) (operations : List Operation) :
    Prop where
  types : ∃ middle, schema.types.Perm middle ∧ List.Forall₂ ReorderedType middle types
  operations : schema.operations.Perm operations

namespace Reordered

variable {schema : Schema} {types : List NamedType} {operations : List Operation}

/-- The names of the types are those of the schema, in another order. -/
theorem names_perm (reordered : Reordered schema types operations) :
    (schema.types.map NamedType.name).Perm (types.map NamedType.name) := by
  obtain ⟨middle, perm, each⟩ := reordered.types
  -- Reordering inside of types leaves their names.
  have names : types.map NamedType.name = middle.map NamedType.name :=
    map_of_forall₂ NamedType.name NamedType.name each fun _ _ own => own.name
  rw [names]
  exact perm.map NamedType.name

/-- Declarations of a schema in another order make a schema again. -/
theorem exists_make (reordered : Reordered schema types operations) :
    ∃ other, Schema.make types operations schema.description = .ok other ∧ other.types = types ∧
      other.operations = operations ∧ other.description = schema.description := by
  have names := reordered.names_perm
  refine Schema.exists_make (names.nodup schema.typesDistinct) (fun type member => ?_)
    ((reordered.operations.map _).nodup schema.operationsDistinct) schema.description
  -- A type bears the name of one that is declared in the schema.
  obtain ⟨declared, among, same⟩ :=
    List.mem_map.mp (names.mem_iff.mpr (List.mem_map_of_mem member))
  rw [← same]
  exact schema.typesFree declared among

end Reordered

end AppSync
