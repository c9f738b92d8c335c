import AppSync.Proofs.Schema
import AppSync.Proofs.Sdl.Validity
import AppSync.Proofs.Strictness

/-!
The two documents of one run describe the same interface: the schema document defines the types of
the schema and the root types, whose fields are those that the resolvers of the manifest serve.
-/

namespace AppSync

namespace Sdl

/-- The name of the type that a definition gives. -/
def Definition.typeName? : Definition → Option String
  | .type _ (.scalar name _) | .type _ (.object name ..) | .type _ (.interface name ..)
  | .type _ (.union name ..) | .type _ (.enum name ..) | .type _ (.input name ..) => some name
  | _ => none

/-- The names of the fields of an object, if a definition gives the object of a name. -/
def Definition.fieldsOf? (name : String) : Definition → Option (List String)
  | .type _ (.object label _ _ fields) =>
    if label = name then some (fields.map FieldDefinition.name) else none
  | _ => none

/-- Whether a definition is the schema block. -/
def Definition.isSchema : Definition → Bool
  | .type _ (.schema ..) => true
  | _ => false

end Sdl

namespace Generation

open Sdl

/-- The field that an entry of the manifest serves on a root type. -/
def servedField? (root : Root) (entry : Json) : Option String :=
  match entry.get? "typeName", entry.get? "fieldName" with
  | some (.text type), some (.text field) => if type = root.name then some field else none
  | _, _ => none

/-- The fields that resolvers serve on a root type. -/
def servedFields (entries : List Json) (root : Root) : List String :=
  entries.filterMap (servedField? root)

/-- The fields that a document gives to a root type. -/
def shownFields (definitions : List Definition) (root : Root) : List String :=
  (definitions.filterMap (Definition.fieldsOf? root.name)).flatten

/-- The root types that resolvers serve fields on. -/
def servedRoots (entries : List Json) : List Root :=
  Root.all.filter fun root => !(servedFields entries root).isEmpty

/-- Resolvers of a manifest and definitions of a document that describe the same interface. -/
structure SameInterface (types : List NamedType) (entries : List Json)
    (definitions : List Definition) : Prop where
  /-- Each root type with a resolver and each type of the schema is defined once, and no other. -/
  names : (definitions.filterMap Definition.typeName?).Perm
    ((servedRoots entries).map Root.name ++ types.map NamedType.name)
  /-- A root type has the fields that resolvers serve on it. -/
  fields : ∀ root ∈ Root.all, (shownFields definitions root).Perm (servedFields entries root)
  /-- It has each of them once. -/
  distinct : ∀ root ∈ Root.all, (servedFields entries root).Nodup
  /-- Besides types there is only the schema block. -/
  only : ∀ definition ∈ definitions,
    definition.typeName? = none → definition.isSchema = true

section Manifest

variable {operations : List Operation} {entries : List Json}

/-- The entry of an operation serves its field on its root type. -/
theorem servedField?_of_describes {operation : Operation} {entry : Json}
    (describes : Manifest.DescribesResolver operation entry) (root : Root) :
    servedField? root entry =
      if operation.root = root then some operation.fieldName else none := by
  have injective : operation.root.name = root.name ↔ operation.root = root := by
    cases operation.root <;> cases root <;> decide
  rw [servedField?, describes.typeName, describes.fieldName]
  simp only [injective]

/-- The fields that the entries of operations serve are those of the operations. -/
theorem servedFields_eq (each : List.Forall₂ Manifest.DescribesResolver operations entries)
    (root : Root) : servedFields entries root =
      (operations.filter fun operation => operation.root = root).map Operation.fieldName := by
  have served := filterMap_of_forall₂ _ (servedField? root) each
    fun operation _ entry describes => servedField?_of_describes describes root
  rw [servedFields, served]
  clear each served
  -- Only the operations of the root type are kept.
  induction operations with
  | nil => rfl
  | cons operation operations ih =>
    rw [List.filterMap_cons, List.filter_cons, ih]
    by_cases own : operation.root = root <;> simp [own]

/-- Resolvers serve the root types that the operations belong to. -/
theorem servedRoots_eq (each : List.Forall₂ Manifest.DescribesResolver operations entries) :
    servedRoots entries = Schema.presentRoots operations := by
  refine List.filter_congr fun root _ => ?_
  rw [servedFields_eq each]
  rw [Bool.eq_iff_iff]
  simp [List.filter_eq_nil_iff]

end Manifest

section Document

variable {view : View} {room : Nat} {types : List NamedType} {operations : List Operation}
  {text : Option String} {definitions : List Definition}

/-- A named type is defined under its name. -/
theorem typeName?_of_showsType {type : NamedType} {definition : Definition}
    (shows : ShowsType view room type definition) : definition.typeName? = some type.name := by
  obtain ⟨-, -, body⟩ := shows
  generalize type.body = shown at body
  cases body <;> rfl

/-- A named type is no object of another name. -/
theorem fieldsOf?_of_showsType {type : NamedType} {definition : Definition}
    (shows : ShowsType view room type definition) {name : String} (other : type.name ≠ name) :
    definition.fieldsOf? name = none := by
  obtain ⟨-, -, body⟩ := shows
  generalize type.body = shown at body
  cases body with
  | object => exact if_neg other
  | _ => rfl

/-- A root type is an object with the fields of its operations by name. -/
theorem fieldsOf?_of_showsRoot {root : Root} {definition : Definition}
    (shows : ShowsRoot view room operations root definition) (other : Root) :
    definition.fieldsOf? other.name =
      if root = other then some ((sortedBy Operation.fieldName
        (operations.filter fun operation => operation.root = root)).map Operation.fieldName)
      else none := by
  -- Roots are told apart by their names.
  have injective : root.name = other.name ↔ root = other := by
    cases root <;> cases other <;> decide
  obtain ⟨each⟩ := shows
  have names := map_of_forall₂ Operation.fieldName FieldDefinition.name each
    fun operation definition own => by
      cases own
      rfl
  simp only [Definition.fieldsOf?, names, injective]

/-- The schema block gives no type, and is the only definition that gives none. -/
theorem schema_of_showsHeading {roots : List Root} {heading : List Definition}
    (shows : ShowsHeading view roots text heading) :
    ∀ definition ∈ heading, definition.typeName? = none ∧ definition.isSchema = true ∧
      ∀ name, definition.fieldsOf? name = none := by
  intro definition member
  cases shows with
  | none => cases member
  | some =>
    rw [List.mem_singleton.mp member]
    exact ⟨rfl, rfl, fun _ => rfl⟩

/-- Among distinct root types the fields of one are found once. -/
theorem flatten_filterMap_root {roots : List Root} (distinct : roots.Nodup)
    (fields : Root → List String) (root : Root) :
    (roots.filterMap fun other => if other = root then some (fields other) else none).flatten =
      if root ∈ roots then fields root else [] := by
  -- Behind the root type itself it does not come again.
  induction roots with
  | nil => rfl
  | cons other roots ih =>
    obtain ⟨fresh, distinct⟩ := List.nodup_cons.mp distinct
    rw [List.filterMap_cons]
    by_cases own : other = root
    · subst own
      simp [ih distinct, fresh]
    · simp [own, ih distinct, Ne.symm own]

/-- The names that a document gives are those of its types and of the roots that are present. -/
theorem typeNames_of_showsDocument
    (shows : ShowsDocument view room types operations text definitions) :
    definitions.filterMap Definition.typeName? =
      (sortedBy NamedType.name types).map NamedType.name ++
        (Schema.presentRoots operations).map Root.name := by
  obtain @⟨heading, named, roots, headed, each, rooted⟩ := shows
  -- The heading gives no name; types and roots give theirs in their order.
  have first : heading.filterMap Definition.typeName? = [] :=
    List.filterMap_eq_nil_iff.mpr fun definition member =>
      (schema_of_showsHeading headed definition member).1
  have second := filterMap_of_forall₂ (some ∘ NamedType.name) Definition.typeName? each
    fun type _ definition own => typeName?_of_showsType own
  have third := filterMap_of_forall₂ (some ∘ Root.name) Definition.typeName? rooted
    fun root _ definition own => by
      cases own
      rfl
  rw [List.filterMap_append, List.filterMap_append, first, second, third, List.filterMap_eq_map,
    List.filterMap_eq_map, List.nil_append]

/-- A root type is shown with the fields of its operations by name. -/
theorem shownFields_of_showsDocument
    (shows : ShowsDocument view room types operations text definitions)
    (free : ∀ type ∈ types, Root.isName type.name = false) (root : Root) :
    shownFields definitions root = (sortedBy Operation.fieldName
      (operations.filter fun operation => operation.root = root)).map Operation.fieldName := by
  obtain @⟨heading, named, roots, headed, each, rooted⟩ := shows
  have first : heading.filterMap (Definition.fieldsOf? root.name) = [] :=
    List.filterMap_eq_nil_iff.mpr fun definition member =>
      (schema_of_showsHeading headed definition member).2.2 root.name
  -- No type of the schema has the name of a root type.
  have second : named.filterMap (Definition.fieldsOf? root.name) = [] := by
    have none := filterMap_of_forall₂ (fun _ => Option.none) (Definition.fieldsOf? root.name) each
      fun type member definition own => fieldsOf?_of_showsType own fun same => by
        have reserved := free type (mem_sortedBy.mp member)
        rw [same] at reserved
        cases root <;> cases reserved
    rw [none]
    simp
  have third := filterMap_of_forall₂ _ (Definition.fieldsOf? root.name) rooted
    fun other _ definition own => fieldsOf?_of_showsRoot own root
  have distinct : (Schema.presentRoots operations).Nodup :=
    List.Nodup.filter _ (by decide : Root.all.Nodup)
  rw [shownFields, List.filterMap_append, List.filterMap_append, first, second, third,
    List.nil_append, List.nil_append, flatten_filterMap_root distinct]
  split
  · rfl
  · -- A root type that is absent has no operation.
    rename_i absent
    have known : root ∈ Root.all := by cases root <;> decide
    have unused : (operations.filter fun operation => operation.root = root) = [] := by
      rw [List.filter_eq_nil_iff]
      intro operation member own
      exact absurd (List.mem_filter.mpr ⟨known, List.any_eq_true.mpr ⟨operation, member, own⟩⟩)
        absent
    rw [unused]
    simp [sortedBy]

/-- The definitions of a document and the resolvers of its operations describe one interface. -/
theorem sameInterface_of_shows {schema : Schema} {entries : List Json}
    (shows : ShowsDocument view room schema.types schema.operations text definitions)
    (each : List.Forall₂ Manifest.DescribesResolver schema.operations entries) :
    SameInterface schema.types entries definitions where
  names := by
    -- The document has the types first and by name, and the root types behind them.
    rw [typeNames_of_showsDocument shows, servedRoots_eq each]
    exact List.perm_append_comm.trans (((List.mergeSort_perm _ _).map _).append_left _)
  fields root _ := by
    rw [shownFields_of_showsDocument shows schema.typesFree, servedFields_eq each]
    exact (List.mergeSort_perm _ _).map _
  distinct root _ := by
    rw [servedFields_eq each]
    exact nodup_fieldNames schema.operationsDistinct root
  only := by
    -- A definition without a type name is no named type and no root type.
    obtain ⟨headed, named, rooted⟩ := shows
    intro definition member unnamed
    rcases List.mem_append.mp member with member | member
    · rcases List.mem_append.mp member with member | member
      · exact (schema_of_showsHeading headed definition member).2.1
      · have given := forall_of_forall₂_right named (fun type definition own =>
          (⟨type.name, typeName?_of_showsType own⟩ : ∃ name, definition.typeName? = some name))
        obtain ⟨name, given⟩ := given definition member
        rw [unnamed] at given
        cases given
    · have given := forall_of_forall₂_right rooted (fun root definition own =>
        (⟨root.name, by cases own; rfl⟩ : ∃ name, definition.typeName? = some name))
      obtain ⟨name, given⟩ := given definition member
      rw [unnamed] at given
      cases given

end Document

/-- A manifest that is built has one resolver for each operation, in the same order. -/
theorem get?_resolvers {strict : Bool} {operations : List Operation} {moment : Moment}
    {manifest : Manifest} (built : Manifest.build strict operations moment = .ok manifest) :
    manifest.document.get? "resolvers" =
      some (.array (operations.map Manifest.resolverEntry)) := by
  unfold Manifest.build at built
  split at built
  · cases built
  · split at built
    · cases built
    · cases built
      simp [Manifest.documentOf, Json.get?]

/-- The resolvers of operations describe these. -/
theorem forall₂_resolverEntry (operations : List Operation) :
    List.Forall₂ Manifest.DescribesResolver operations
      (operations.map Manifest.resolverEntry) :=
  List.forall₂_map_right_iff.mpr (List.forall₂_same.mpr fun operation _ =>
    Manifest.resolverEntry_describes operation)

variable {schema : Schema} {config : Config} {moment : Moment} {artifacts : Artifacts}

/-- What a run has made, if it has made both documents. -/
theorem generate_ok (generated : generate schema config moment = .ok artifacts) :
    writtenSchema? schema config.schemaDescription = some artifacts.sdl ∧
      checked config artifacts.sdl = .ok () ∧
      ∃ manifest, Manifest.build config.strictDataSources schema.operations moment = .ok manifest ∧
        artifacts.manifest = manifest.text := by
  obtain ⟨sdl, manifest, written, passed, built, rfl⟩ := generate_eq_ok_iff.mp generated
  exact ⟨written, passed, manifest, built, rfl⟩

/-- The checked artifacts of a well-formed schema with quiet texts describe the same interface. -/
theorem generate_sameInterface {room : Nat} (fits : WellFormed room schema config.schemaDescription)
    (quiet : Quiet room schema config.schemaDescription) (checks : config.validateSdl = true)
    (generated : generate schema config moment = .ok artifacts) :
    ∃ definitions manifest entries, read artifacts.sdl = .ok definitions ∧
      Manifest.build config.strictDataSources schema.operations moment = .ok manifest ∧
      artifacts.manifest = manifest.text ∧
      manifest.document.get? "resolvers" = some (.array entries) ∧
      SameInterface schema.types entries definitions := by
  obtain ⟨written, passed, manifest, built, text⟩ := generate_ok generated
  -- Whether there is room for the document is not known, but it is if the document passes.
  obtain ⟨definitions, shows, outcome⟩ := exists_read_or fits quiet fun none : False => none.elim
  -- The document that is written is the one that is read.
  have same : renderSchema schema config.schemaDescription = artifacts.sdl := by
    unfold writtenSchema? at written
    split at written
    · exact Option.some.inj written
    · cases written
  rw [checked, if_pos checks, check_eq, ← same] at passed
  have readable : read (renderSchema schema config.schemaDescription) = .ok definitions := by
    rcases outcome with readable | ⟨-, fault, refused⟩
    · exact readable
    · rw [refused] at passed
      cases passed
  exact ⟨definitions, manifest, _, same ▸ readable, built, text, get?_resolvers built,
    sameInterface_of_shows shows (forall₂_resolverEntry schema.operations)⟩

/-- A schema whose document is read gives both artifacts under the usual settings. -/
theorem exists_artifacts {definitions : List Definition} (writable : isWritable schema = true)
    (readable : read (renderSchema schema none) = .ok definitions) {timestamp : String}
    (stamped : Calendar.timestamp? moment = some timestamp) :
    ∃ artifacts manifest, generate schema {} moment = .ok artifacts ∧
      artifacts.sdl = renderSchema schema none ∧
      Manifest.build false schema.operations moment = .ok manifest ∧
      artifacts.manifest = manifest.text := by
  -- Conflicts of data sources stop a run in strict mode only.
  obtain ⟨manifest, built⟩ :
      ∃ manifest, Manifest.build false schema.operations moment = .ok manifest :=
    let ⟨_, _, _, built⟩ := Manifest.exists_build schema.operations stamped
    ⟨_, built⟩
  have written : writtenSchema? schema none = some (renderSchema schema none) := if_pos writable
  have passed : checked {} (renderSchema schema none) = .ok () := by
    rw [checked, if_pos rfl, check_eq, readable]
    rfl
  refine ⟨⟨renderSchema schema none, manifest.text, manifest.diagnostics⟩, manifest, ?_, rfl, built,
    rfl⟩
  exact generate_eq_ok_iff.mpr ⟨_, manifest, written, passed, built, rfl⟩

/-- A moment at which schemas are tried. -/
def noon : Moment :=
  ⟨⟨2024, 1, 15⟩, ⟨12, 0, 0, 0⟩, none⟩

/-- It is one of the calendar. -/
theorem timestamp?_noon : Calendar.timestamp? noon = some "2024-01-15T12:00:00Z" := by
  decide +kernel

/-- The artifacts of the post describe the same interface. -/
theorem generate_bracketedSchema : WellFormed Parser.nestingLimit bracketedSchema none ∧
    Quiet Parser.nestingLimit bracketedSchema none ∧ ({} : Config).validateSdl = true ∧
    ∃ artifacts, generate bracketedSchema {} noon = .ok artifacts ∧
      ∃ definitions manifest entries, read artifacts.sdl = .ok definitions ∧
        Manifest.build false bracketedSchema.operations noon = .ok manifest ∧
        artifacts.manifest = manifest.text ∧
        manifest.document.get? "resolvers" = some (.array entries) ∧
        SameInterface bracketedSchema.types entries definitions := by
  obtain ⟨definitions, readable⟩ :=
    exists_read_renderSchema bracketedSchema_wellFormed bracketedSchema_quiet
      (Nat.le_refl Parser.nestingLimit)
  obtain ⟨artifacts, -, generated, -⟩ := exists_artifacts rfl readable timestamp?_noon
  exact ⟨bracketedSchema_wellFormed, bracketedSchema_quiet, rfl, artifacts, generated,
    @generate_sameInterface _ {} _ _ Parser.nestingLimit bracketedSchema_wellFormed
      bracketedSchema_quiet rfl generated⟩

/-- A query that a data source answers. -/
def simpleQuery (fieldName returnType : String) (arguments : List Argument) : Operation :=
  ⟨.query, fieldName, returnType, none, arguments, .unit "Source" (by decide), [], {}⟩

/-- The schema of one operation. -/
def operationSchema (operation : Operation) : Schema :=
  ⟨[], [operation], none, by simp, by simp, by simp⟩

/-- Without operations none are alike. -/
theorem nodup_no_keys : (([] : List Operation).map Operation.key).Nodup :=
  List.nodup_nil

/-- The schema of one type. -/
def typeSchema (type : NamedType) (free : Root.isName type.name = false) : Schema :=
  ⟨[type], [], none, by simp, by simpa using free, nodup_no_keys⟩

/-- Schemas in each of which one text is pasted that is more than the item it stands for. -/
def pastedSchemas : List Schema := [
  operationSchema (simpleQuery "a: Int b" "Int" []),
  operationSchema (simpleQuery "a" "Int b: Int" []),
  operationSchema (simpleQuery "a" "Int" [⟨"x: Int): Int b(y", "Int", none, true, none⟩]),
  operationSchema (simpleQuery "a" "Int" [⟨"x", "Int): Int b(y: Int", none, true, none⟩]),
  operationSchema (simpleQuery "a" "Int"
    [⟨"x", "Int", none, true, some "1): Int b(y: Int"⟩]),
  typeSchema ⟨"A type B", none, .object [], []⟩ (by decide),
  typeSchema ⟨"A", none,
    .object [⟨"x: Int \x7d type B \x7b y", "Int", none, true, false, none, []⟩], []⟩ (by decide),
  typeSchema ⟨"A", none,
    .object [⟨"x", "Int \x7d type B \x7b y: Int", none, true, false, none, []⟩], []⟩ (by decide),
  typeSchema ⟨"A", none, .enum [⟨"X \x7d type B enum C \x7b Y", none, false, none⟩], []⟩
    (by decide),
  typeSchema ⟨"A", none, .union ["X type B"], []⟩ (by decide),
  typeSchema ⟨"A", none, .object [],
    [⟨"d", [("x: 1) type B @e(y", .integer 1)], by decide, by decide⟩]⟩ (by decide)]

/-- Whether a document gives as many types and fields as resolvers and types of a schema ask for. -/
def isCounted (types : List NamedType) (entries : List Json) (definitions : List Definition) :
    Bool :=
  (definitions.filterMap Definition.typeName?).length =
      (servedRoots entries).length + types.length &&
    Root.all.all fun root =>
      (shownFields definitions root).length = (servedFields entries root).length

/-- Resolvers and definitions that describe one interface agree in number. -/
theorem SameInterface.isCounted {types : List NamedType} {entries : List Json}
    {definitions : List Definition} (same : SameInterface types entries definitions) :
    isCounted types entries definitions = true := by
  have names := same.names.length_eq
  rw [List.length_append, List.length_map, List.length_map] at names
  simpa [Generation.isCounted, names] using fun root known => (same.fields root known).length_eq

/-- Whether the document of a schema is read, and disagrees in number with its resolvers. -/
def isMiscounted (schema : Schema) : Bool :=
  match read (renderSchema schema none) with
  | .ok definitions =>
    !isCounted schema.types (schema.operations.map Manifest.resolverEntry) definitions
  | .error _ => false

/-- A pasted text can give fields and types that no resolver and no type of the schema asks for. -/
theorem exists_not_sameInterface : pastedSchemas.Forall fun schema =>
    ∃ artifacts, generate schema {} noon = .ok artifacts ∧
      ∃ definitions manifest entries, read artifacts.sdl = .ok definitions ∧
        Manifest.build false schema.operations noon = .ok manifest ∧
        artifacts.manifest = manifest.text ∧
        manifest.document.get? "resolvers" = some (.array entries) ∧
        ¬SameInterface schema.types entries definitions := by
  have writable : ∀ schema ∈ pastedSchemas, isWritable schema = true := by decide +kernel
  have miscounted : ∀ schema ∈ pastedSchemas, isMiscounted schema = true := by decide +kernel
  refine List.forall_iff_forall_mem.mpr fun schema member => ?_
  have miscounted := miscounted schema member
  unfold isMiscounted at miscounted
  split at miscounted
  case h_2 => cases miscounted
  case h_1 definitions readable =>
    obtain ⟨artifacts, manifest, generated, sdl, built, text⟩ :=
      exists_artifacts (writable schema member) readable timestamp?_noon
    refine ⟨artifacts, generated, definitions, manifest, _, sdl ▸ readable, built, text,
      get?_resolvers built, fun same => ?_⟩
    -- What describes one interface agrees in number.
    rw [same.isCounted] at miscounted
    cases miscounted

end Generation

end AppSync
