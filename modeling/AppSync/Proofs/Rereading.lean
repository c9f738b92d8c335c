import AppSync.Config.Basic
import AppSync.Proofs.Document.Rereading
import AppSync.Proofs.Json.RoundTrip
import AppSync.Proofs.Schema
import AppSync.Proofs.Schema.Reading
import AppSync.Source.Basic

/-!
Every record is read again from its document form, whatever it was read from: words for truth values
and numbers, names with a sign and kinds in any case are written in one way, which reads the same.
-/

namespace AppSync

open Reading (IsStable Yields)

variable {known : Prop}

/-! ## Directives -/

/-- A literal is read again as one of its kind. -/
@[simp] theorem DirectiveValue.read_toJson (literal : DirectiveValue) :
    read (.ofJson literal.toJson) = .ok literal := by
  cases literal with
  | texts values =>
    have again := Reading.texts_ofJson values
    simp only [toJson, Value.ofJson] at again ⊢
    simp only [read, again]
  | text | flag | integer | decimal => rfl

namespace Directive

/-- Arguments are read again in order. -/
theorem readArguments_ofJson (arguments : List (String × DirectiveValue)) :
    readArguments (Value.ofJsonMembers (arguments.map fun argument =>
      (argument.1, argument.2.toJson))) = .ok arguments := by
  induction arguments with
  | nil => rfl
  | cons argument rest ih =>
    rw [List.map_cons, Value.ofJsonMembers, readArguments, ih, DirectiveValue.read_toJson]
    rfl

/-- A directive whose arguments have names of their own is read again. -/
theorem read_toJson {directive : Directive} (distinct : directive.Distinct) :
    read (.ofJson directive.toJson) = .ok directive := by
  obtain ⟨name, arguments, named, bounded⟩ := directive
  -- An identifier has no sign to lose.
  have bare : withoutSign name = name := by
    unfold withoutSign
    split
    · rename_i rest signed
      rw [Text.isIdentifier, signed] at named
      cases named
    · rfl
  have nameAgain : readName (.ofJson (.text name)) = .ok ⟨name, named⟩ := by
    rw [readName, Reading.text_ofJson, Reading.map_ok, bare, Reading.obeying, dif_pos named]
  have argumentsAgain : readBounded (.ofJson (.object (arguments.map fun argument =>
      (argument.1, argument.2.toJson)))) = .ok ⟨arguments, bounded⟩ := by
    have collected : readMapping (.ofJson (.object (arguments.map fun argument =>
        (argument.1, argument.2.toJson)))) = .ok arguments := by
      change Except.map Json.collectMembers (readArguments (Value.ofJsonMembers _)) = _
      rw [readArguments_ofJson, Reading.map_ok, Json.collectMembers_eq distinct]
    rw [readBounded, collected, Reading.obeying, dif_pos bounded]
  simp [read, toJson, nameAgain, argumentsAgain]

/-- Directives whose arguments have names of their own are read again in a list. -/
theorem list_toJson {directives : List Directive}
    (distinct : ∀ directive ∈ directives, directive.Distinct) :
    Reading.list read (.ofJson (.array (directives.map toJson))) = .ok directives :=
  Reading.list_ofJson fun directive member => read_toJson (distinct directive member)

end Directive

/-! ## Types -/

/-- A field is read again. -/
theorem Field.read_toJson {field : Field}
    (distinct : ∀ directive ∈ field.directives, directive.Distinct) :
    read (.ofJson field.toJson) = .ok field := by
  simp [read, toJson, Reading.optionalText, Directive.list_toJson distinct]

/-- A value of an enum is read again. -/
theorem EnumValue.read_toJson (value : EnumValue) : read (.ofJson value.toJson) = .ok value := by
  simp [read, toJson, Reading.optionalText]

/-- The word for a kind is read again. -/
@[simp] theorem TypeKind.choice_word (kind : TypeKind) :
    Reading.choice choices Text.lowerCase (.ofJson (.text kind.word)) = .ok kind := by
  cases kind <;> decide +kernel

/-- A type is read again. -/
theorem NamedType.read_toJson {type : NamedType} (distinct : type.Distinct) :
    read (.ofJson type.toJson) = .ok type := by
  obtain ⟨name, description, body, directives⟩ := type
  have fields : Reading.list Field.read (.ofJson (.array (body.fields.map Field.toJson))) =
      .ok body.fields :=
    Reading.list_ofJson fun field member => Field.read_toJson (distinct.fields field member)
  have values : Reading.list EnumValue.read (.ofJson (.array (body.values.map EnumValue.toJson))) =
      .ok body.values :=
    Reading.list_ofJson fun value _ => value.read_toJson
  have declared : TypeDeclaration.read (.ofJson (toJson ⟨name, description, body, directives⟩)) =
      .ok ⟨name, body.kind, description, body.fields, body.values, body.members, directives⟩ := by
    simp [TypeDeclaration.read, toJson, Reading.optionalText, fields, values,
      Directive.list_toJson distinct.directives]
  rw [read, declared]
  -- A body has members of its own kind only, and is made of them again.
  cases body <;> rfl

/-! ## Operations -/

/-- An argument is read again. -/
theorem Argument.read_toJson (argument : Argument) :
    read (.ofJson argument.toJson) = .ok argument := by
  simp [read, toJson, Reading.optionalText]

/-- Deployment settings are read again. -/
@[simp] theorem Deployment.read_toJson (deployment : Deployment) :
    read (.ofJson deployment.toJson) = .ok deployment := by
  simp [read, toJson, Reading.optionalText]

/-- The name of a root type is read again. -/
@[simp] theorem Root.choice_name (root : Root) :
    Reading.choice (all.map fun root => (root.name, root)) Text.capitalized
      (.ofJson (.text root.name)) = .ok root := by
  cases root <;> decide +kernel

/-- The word for a kind of resolvers is read again. -/
@[simp] theorem Resolver.choice_word (kind : Resolver.Kind) :
    Reading.choice Kind.choices Text.upperCase (.ofJson (.text kind.word)) = .ok kind := by
  cases kind <;> decide +kernel

/-- A resolver is made again of its kind, its data source as written, and its functions. -/
theorem Resolver.make_parts (field : String) (resolver : Resolver) :
    make field resolver.kind resolver.dataSource? resolver.functions = .ok resolver := by
  cases resolver with
  | unit source named =>
    change (if named : source ≠ "" then _ else _) = _
    rw [dif_pos named]
    rfl
  | pipeline functions some blank =>
    change (if given : functions ≠ [] then _ else _) = _
    rw [dif_pos some]
    cases blank <;> rfl

/-- An operation is read again. -/
theorem Operation.read_toJson {operation : Operation}
    (distinct : ∀ directive ∈ operation.directives, directive.Distinct) :
    read (.ofJson operation.toJson) = .ok operation := by
  have arguments : Reading.list Argument.read
      (.ofJson (.array (operation.arguments.map Argument.toJson))) = .ok operation.arguments :=
    Reading.list_ofJson fun argument _ => argument.read_toJson
  have declared : OperationDeclaration.read (.ofJson operation.toJson) =
      .ok ⟨operation.root, operation.fieldName, operation.returnType, operation.description,
        operation.arguments, operation.resolver.kind, operation.resolver.dataSource?,
        operation.resolver.functions, operation.directives, operation.deployment⟩ := by
    simp [OperationDeclaration.read, toJson, Reading.optionalText, arguments,
      Directive.list_toJson distinct]
  -- The parts of the resolver make up the same resolver.
  rw [read, declared, Reading.bind_ok, OperationDeclaration.toOperation, Resolver.make_parts]

/-- A data source is read again. -/
theorem DataSource.read_toJson (source : DataSource) :
    read (.ofJson source.toJson) = .ok source := by
  simp [read, toJson]

/-! ## Schemas -/

/-- A schema is read again if its types and operations are. -/
theorem Schema.read_toJson {schema : Schema}
    (types : ∀ type ∈ schema.types, type.Distinct)
    (operations : ∀ operation ∈ schema.operations,
      ∀ directive ∈ operation.directives, directive.Distinct) :
    read (.ofJson schema.toJson) = .ok schema := by
  have typesAgain : Reading.list NamedType.read
      (.ofJson (.array (schema.types.map NamedType.toJson))) = .ok schema.types :=
    Reading.list_ofJson fun type member => NamedType.read_toJson (types type member)
  have operationsAgain : Reading.list Operation.read
      (.ofJson (.array (schema.operations.map Operation.toJson))) = .ok schema.operations :=
    Reading.list_ofJson fun operation member =>
      Operation.read_toJson (operations operation member)
  obtain ⟨other, made, sameTypes, sameOperations, sameDescription⟩ :=
    exists_make schema.typesDistinct schema.typesFree schema.operationsDistinct schema.description
  -- The parts of a schema clash no more than they did.
  have same : other = schema := by
    cases other
    cases schema
    simp_all
  simp [read, readParts, toJson, Reading.optionalText, typesAgain, operationsAgain, made, same]

/-- The directives of a schema that is read have arguments with names of their own. -/
theorem Schema.read_yields (value : Value) :
    Yields False (fun schema : Schema => (∀ type ∈ schema.types, type.Distinct) ∧
      ∀ operation ∈ schema.operations, ∀ directive ∈ operation.directives, directive.Distinct)
      (read value) := by
  refine (Yields.record _ _).bind fun entries _ form => ?_
  have types : Yields False (fun types : List NamedType => ∀ type ∈ types, type.Distinct)
      (Reading.optional "types" (Reading.list NamedType.read) [] entries) :=
    .optional (fun _ member => nomatch member) fun _ _ =>
      .list fun _ _ _ _ => (NamedType.read_yields nofun).imp fun _ held => held.1
  have operations : Yields False (fun operations : List Operation =>
      ∀ operation ∈ operations, ∀ directive ∈ operation.directives, directive.Distinct)
      (Reading.optional "operations" (Reading.list Operation.read) [] entries) :=
    .optional (fun _ member => nomatch member) fun _ _ =>
      .list fun _ _ _ _ => Operation.read_yields nofun
  have parts : Yields False (fun parts : List NamedType × List Operation × Option String =>
      (∀ type ∈ parts.1, type.Distinct) ∧
        ∀ operation ∈ parts.2.1, ∀ directive ∈ operation.directives, directive.Distinct)
      (readParts entries) := by
    refine .giveAny ?_ (.optionalText _ _)
    refine .give (.map (types.imp ?_)) operations
    exact fun _ distinct _ apart _ => ⟨distinct, apart⟩
  -- Making a schema keeps its parts as they are.
  refine parts.bind fun (types, operations, description) _ distinct => ?_
  dsimp only
  split
  · rename_i schema made
    obtain ⟨rfl, rfl⟩ := parts_of_make made
    exact .ok distinct
  · exact .fail nofun

/-! ## Source types -/

/-- The document forms of type arguments are those of each. -/
theorem Source.toJsonItems_eq_map (arguments : List Source) :
    toJsonItems arguments = arguments.map toJson := by
  induction arguments with
  | nil => rfl
  | cons argument rest ih => rw [toJsonItems, ih, List.map_cons]

/-- A source type that fits into some room is read again in that room, with nothing around it. -/
theorem Source.readWithin_yields (around : List Nat) (room : Nat) (value : Value) :
    Yields known (fun source => readWithin [] room (.ofJson source.toJson) = .ok source)
      (readWithin around room value) := by
  -- Each level of arguments takes one place of the room, in the value and in the document form.
  induction room generalizing around value with
  | zero =>
    unfold readWithin
    split <;> exact .plain nofun
  | succ room ih =>
    unfold readWithin
    split
    · exact .plain nofun
    · refine (Yields.record _ _).bind fun entries _ _ => ?_
      have arguments : Yields known
          (fun found => ∀ argument ∈ found,
            readWithin [] room (.ofJson (toJson argument)) = .ok argument)
          (Reading.optional "type_arguments"
            (Reading.tuple (readWithin (enclosing around value) room)) [] entries) :=
        .optional (fun _ member => nomatch member) fun _ _ => .tuple fun _ _ _ _ => ih _ _
      unfold readFields
      refine .giveAny ?_ (.optionalText _ _)
      refine .giveAny ?_ (.optionalBoolean _ _ _)
      refine .giveAny ?_ (.optional trivial fun truth _ => .nullable (.boolean truth))
      refine .giveAny ?_ (.optionalBoolean _ _ _)
      refine .giveAny ?_ (.optionalBoolean _ _ _)
      refine .giveAny ?_ (.optionalBoolean _ _ _)
      refine .give (.map ((Yields.requiredText _ _).imp ?_)) arguments
      intro name _ arguments again collection dictionary wrapper valueType nonNull override
      have argumentsAgain := Reading.tuple_ofJson again
      rw [← toJsonItems_eq_map] at argumentsAgain
      rw [toJson]
      -- The document form is part of nothing, and has nothing around it.
      change readFields (Reading.tuple (readWithin [] room)) (Value.ofJsonMembers _) = _
      simp [readFields, argumentsAgain]

/-! ## Settings -/

/-- Members named after settings have no unknown key among them. -/
theorem Config.readKeys_members {members : List (String × Json)}
    (known : ∀ member ∈ members, member.1 ∈ keys) :
    readKeys (Value.ofJsonMembers members) = .ok () := by
  -- Unknown keys are what is left without the known ones.
  have none_left : (Value.ofJsonMembers members).filter
      (fun entry => keys.all fun key => entry.1 ≠ .text key) = [] := by
    induction members with
    | nil => rfl
    | cons member rest ih =>
      have others := ih fun other inside => known other (List.mem_cons_of_mem member inside)
      rw [Value.ofJsonMembers, List.filter_cons, others]
      simpa using known member List.mem_cons_self
  rw [readKeys, none_left]

/-- Settings are read again. -/
theorem Config.read_toJson (config : Config) : read (.ofJson config.toJson) = .ok config := by
  -- Names of files are checked again, and pass again.
  have plain (name : PlainName) : readPlainName (.ofJson (.text name.1)) = .ok name := by
    rw [readPlainName, Reading.text_ofJson, Reading.obeying, dif_pos name.2]
  have known : readKeys (Value.ofJsonMembers [
      ("schema_file_name", .text config.schemaFileName.1),
      ("resolver_file_name", .text config.resolverFileName.1),
      ("output_directory", .text config.outputDirectory),
      ("schema_description", Json.ofText? config.schemaDescription),
      ("strict_data_sources", .bool config.strictDataSources),
      ("validate_sdl", .bool config.validateSdl)]) = .ok () :=
    readKeys_members (by simp [keys])
  simp [read, toJson, plain, known]

/--
Whatever is read, as a source type, a directive, a field, a value of an enum, a type, an argument,
deployment settings, an operation, a data source, a schema or settings, is read again from its
document form, and is the same with every literal of the same kind.
-/
theorem readings_stable :
    IsStable Source.read Source.toJson ∧
    IsStable Directive.read Directive.toJson ∧
    IsStable Field.read Field.toJson ∧
    IsStable EnumValue.read EnumValue.toJson ∧
    IsStable NamedType.read NamedType.toJson ∧
    IsStable Argument.read Argument.toJson ∧
    IsStable Deployment.read Deployment.toJson ∧
    IsStable Operation.read Operation.toJson ∧
    IsStable DataSource.read DataSource.toJson ∧
    IsStable Schema.read Schema.toJson ∧
    IsStable Config.read Config.toJson := by
  refine ⟨fun value source found => ?_, fun value directive found => ?_,
    fun value field found => ?_,
    fun _ value _ => value.read_toJson, fun value type found => ?_,
    fun _ argument _ => argument.read_toJson, fun _ deployment _ => deployment.read_toJson,
    fun value operation found => ?_, fun _ source _ => source.read_toJson,
    fun value schema found => ?_, fun _ config _ => config.read_toJson⟩
  · have again : Yields False _ (Source.read value) :=
      Source.readWithin_yields [] Source.depthLimit value
    exact again.found source found
  · exact Directive.read_toJson ((Directive.read_yields False.elim).found directive found)
  · exact Field.read_toJson ((Field.read_yields False.elim).found field found)
  · exact NamedType.read_toJson ((NamedType.read_yields False.elim).found type found).1
  · exact Operation.read_toJson ((Operation.read_yields False.elim).found operation found)
  · obtain ⟨types, operations⟩ := (Schema.read_yields value).found schema found
    exact Schema.read_toJson types operations

/-- A type with a kind in capitals, a directive with its sign, and truth values in words. -/
def spokenType : Value :=
  .mapping [
    (.text "name", .text "Post"),
    (.text "kind", .text "OBJECT"),
    (.text "fields", .list [.mapping [
      (.text "name", .text "title"),
      (.text "type", .text "String"),
      (.text "is_nullable", .text "No"),
      (.text "is_deprecated", .scalar (.int 1)),
      (.text "directives", .set [])]]),
    (.text "directives", .list [.mapping [
      (.text "name", .text "@auth"),
      (.text "arguments", .mapping [
        (.text "limit", .scalar (.int 3)),
        (.text "ratio", .scalar (.float (.finite false 3 0))),
        (.text "groups", .pair (.text "a") (.scalar (.bytes [98])))])]])]

/-- The same type as it is read. -/
def writtenType : NamedType where
  name := "Post"
  description := none
  body := .object [⟨"title", "String", none, false, true, none, []⟩]
  directives := [⟨"auth", [("limit", .integer 3), ("ratio", .decimal (.finite false 3 0)),
    ("groups", .texts ["a", "b"])], by decide +kernel, by decide⟩]

/-- The type is read as it is written, and again from its document form. -/
theorem readings_stable_spokenType :
    NamedType.read spokenType = .ok writtenType ∧
      NamedType.read (.ofJson writtenType.toJson) = .ok writtenType := by
  have found : NamedType.read spokenType = .ok writtenType := by decide +kernel
  obtain ⟨-, -, -, -, type, -⟩ := readings_stable
  exact ⟨found, type spokenType writtenType found⟩

end AppSync
