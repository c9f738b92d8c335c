import AppSync.Proofs.Sdl.Meaning
import AppSync.Proofs.Sdl.Nesting
import AppSync.Proofs.Sdl.Seen

/-! A printed schema is parsed as what it means. -/

namespace AppSync.Sdl

/-- A literal without halves of characters is seen as its constant. -/
theorem showsValue {value : DirectiveValue} (bounded : value.isBounded = true)
    (whole : WholeValue value) : ShowsValue .plain value (constantOf value) := by
  cases value with
  | text value => exact .text (Prints.quoted whole)
  | integer value => exact .integer value
  | decimal value => exact .decimal bounded
  | flag value => exact .flag value
  | texts values =>
    exact .texts (List.forall₂_same.mpr fun value member => Prints.quoted (whole value member))

/-- A directive is seen as what it says. -/
theorem showsDirective {applied : Directive} (fits : FitsDirective applied) :
    ShowsDirective .plain applied (annotationOf applied) where
  named := fits.named
  name := rfl
  arguments := List.forall₂_map_right_iff.mpr <| List.forall₂_same.mpr fun argument member =>
    have own := fits.arguments argument member
    ⟨own.1, rfl, showsValue (applied.bounded argument member) own.2⟩

/-- Directives are seen as what they say. -/
theorem showsDirectives {applied : List Directive} (fits : ∀ one ∈ applied, FitsDirective one) :
    List.Forall₂ (ShowsDirective .plain) applied (applied.map annotationOf) :=
  List.forall₂_map_right_iff.mpr <| List.forall₂_same.mpr fun one member =>
    showsDirective (fits one member)

/-- The mark of a deprecated member is seen with its reason. -/
theorem showsDeprecation {isDeprecated : Bool} {reason : Option String}
    (fits : FitsDeprecation isDeprecated reason) :
    ShowsDeprecation .plain reason isDeprecated (deprecationOf isDeprecated reason) := by
  cases isDeprecated with
  | false => exact .none
  | true =>
    obtain ⟨text, rfl, some_text, whole⟩ := fits rfl
    exact .reason (by simp [some_text]) (Prints.quoted whole)

/-- A value of an enum is seen as what it is. -/
theorem showsEnumValue {value : EnumValue} (fits : FitsEnumValue value) :
    ShowsEnumValue .plain value (enumValueOf value) :=
  .intro fits.named fits.free (Prints.description fits.described memberIndent_blank)
    (showsDeprecation fits.deprecation)

namespace Meaning

variable {meaning : Meaning} {room : Nat}

/-- The type of a member is seen as what it means. -/
theorem showsType {type : String} (fits : meaning.FitsType room type)
    (nullable : (meaning.reference type).isNonNull = false) (isNullable : Bool) :
    ShowsReference .plain room (typeText type isNullable) (meaning.typeOf type isNullable) :=
  (ShowsReference.of_scans fits.written fits.room).marked fun _ => nullable

/-- A field is seen as what it means. -/
theorem showsMember {field : Field} (fits : meaning.FitsField room field) :
    ShowsMember .plain room field (described field.description)
      (meaning.typeOf field.type field.isNullable) (field.directives.map annotationOf)
      (deprecationOf field.isDeprecated field.deprecationReason) where
  named := fits.named
  described := Prints.description fits.described memberIndent_blank
  typed := showsType fits.typed fits.nullable field.isNullable
  applied := showsDirectives fits.directives
  deprecated := showsDeprecation fits.deprecation

/-- An argument is seen as what it means. -/
theorem showsArgument {argument : Argument} (fits : meaning.FitsArgument room argument) :
    ShowsArgument .plain room argument (meaning.argumentOf argument) := by
  -- Named, described and typed as it stands; a default is written as its constant.
  refine .intro fits.named (Prints.description fits.described argumentIndent_blank) ?_
    (showsType fits.typed fits.nullable argument.isNullable) ?_
  · intro unsaid
    rw [isDescribed, Option.isSome_eq_false_iff, Option.isNone_iff_eq_none] at unsaid
    rw [described, unsaid, Option.map_none]
  · cases given : argument.defaultValue with
    | none => exact .none
    | some value =>
      have own := fits.default value given
      exact .some ⟨Prints.of_scans own.written, own.room⟩

/-- An operation is seen as what it means. -/
theorem showsOperation {operation : Operation} (fits : meaning.FitsOperation room operation) :
    ShowsOperation .plain room operation (meaning.operationOf operation) :=
  .intro fits.named (Prints.description fits.described memberIndent_blank)
    (List.forall₂_map_right_iff.mpr <| List.forall₂_same.mpr fun argument member =>
      showsArgument (fits.arguments argument member))
    (.of_scans fits.typed.written fits.typed.room) (showsDirectives fits.directives)

/-- Items by name are seen as what they mean, if each of them is. -/
theorem showsSorted {α β : Type} {relation : α → β → Prop} {make : α → β} {items : List α}
    (name : α → String) (each : ∀ item ∈ items, relation item (make item)) :
    List.Forall₂ relation (sortedBy name items) ((sortedBy name items).map make) :=
  List.forall₂_map_right_iff.mpr <| List.forall₂_same.mpr fun item member =>
    each item (mem_sortedBy.mp member)

/-- A named type is seen as what it means. -/
theorem showsNamedType {type : NamedType} (fits : meaning.FitsNamedType room type) :
    Sdl.ShowsType .plain room type (meaning.definitionOf type) := by
  refine .intro fits.named (Prints.description fits.described (by simp)) ?_
  have applied := fun other => showsDirectives (fits.directives other)
  have fields := fits.fields
  have values := fits.values
  have members := fits.members
  unfold contentOf
  -- The members are those of the type by name.
  cases body : type.body with
  | object own =>
    rw [body] at applied fields
    exact .object (applied (by simp [TypeBody.kind]))
      (showsSorted _ fun field member => .intro (showsMember (fields field member)))
  | input own =>
    rw [body] at applied fields
    exact .input (applied (by simp [TypeBody.kind]))
      (showsSorted _ fun field member => .intro (showsMember (fields field member)))
  | interface own =>
    rw [body] at applied fields
    exact .interface (applied (by simp [TypeBody.kind]))
      (showsSorted _ fun field member => .intro (showsMember (fields field member)))
  | enum own =>
    rw [body] at values
    exact .enum (showsSorted _ fun value member => showsEnumValue (values value member))
  | union own =>
    rw [body] at applied members
    exact .union (applied (by simp [TypeBody.kind])) members

/-- The parts of a document are seen as what they mean. -/
theorem showsDocument {types : List NamedType} {operations : List Operation}
    {text : Option String} (fits : meaning.FitsParts room types operations text) :
    ShowsDocument .plain room types operations text
      (meaning.definitions types operations text) := by
  refine .intro ?_ (showsSorted _ fun type member => showsNamedType (fits.types type member)) ?_
  · -- The schema block is there if there is a root type.
    split
    · rename_i rootless
      exact .none (List.isEmpty_iff.mp rootless)
    · rename_i rooted
      exact .some (by simpa using rooted) (Prints.description fits.described (by simp))
  · refine List.forall₂_map_right_iff.mpr (List.forall₂_same.mpr fun root _ => .intro ?_)
    refine showsSorted _ fun operation member => ?_
    exact showsOperation (fits.operations operation (List.mem_filter.mp member).1)

end Meaning

/-- A schema that is not empty has a block. -/
theorem blocks_ne_nil {types : List NamedType} {operations : List Operation}
    (some_part : types ≠ [] ∨ operations ≠ []) (text : Option String) :
    blocks types operations text ≠ [] := by
  intro none
  simp only [blocks, List.append_eq_nil_iff, List.map_eq_nil_iff] at none
  obtain ⟨⟨-, sorted⟩, roots⟩ := none
  -- Each type has a block, and each operation its root type.
  rcases some_part with some_type | some_operation
  · obtain ⟨type, member⟩ := List.exists_mem_of_ne_nil types some_type
    have kept := (@mem_sortedBy _ NamedType.name types type).mpr member
    rw [sorted] at kept
    cases kept
  · obtain ⟨operation, member⟩ := List.exists_mem_of_ne_nil operations some_operation
    have known : operation.root ∈ Root.all := by cases operation.root <;> decide
    have present : operation.root ∈ Schema.presentRoots operations :=
      List.mem_filter.mpr ⟨known, by simpa using ⟨operation, member, rfl⟩⟩
    rw [roots] at present
    cases present

/-- The parts of a schema are parsed as what they mean. -/
theorem parse_render {meaning : Meaning} {types : List NamedType} {operations : List Operation}
    {text : Option String} (fits : meaning.FitsParts Parser.nestingLimit types operations text)
    (some_part : types ≠ [] ∨ operations ≠ []) :
    parse (render types operations text).toList =
      .ok (meaning.definitions types operations text) := by
  have parsed := (Meaning.showsDocument fits).parse_eq (blocks_ne_nil some_part text)
    (Nat.le_refl _)
  rwa [View.see_plain] at parsed

/-- A schema that can be written is written as a document that is parsed as what it means. -/
theorem parse_writtenSchema {meaning : Meaning} {schema : Schema} {text : Option String}
    (fits : meaning.FitsSchema Parser.nestingLimit schema text) (some_part : schema.isEmpty = false)
    (writable : isWritable schema = true) :
    ∃ document, writtenSchema? schema text = some document ∧
      parse document.toList = .ok (meaning.schemaDefinitions schema text) := by
  -- The text is the one that is rendered, since it can be written.
  refine ⟨renderSchema schema text, if_pos writable, parse_render fits ?_⟩
  rw [Schema.isEmpty, Bool.and_eq_false_iff] at some_part
  exact some_part.imp (by simp) (by simp)

/-- A post whose description holds three quotes, and the operation that lists posts. -/
def postSchema : Schema where
  types := [⟨"Post", some "Say \"\"\"hello\"\"\" first.",
    .object [⟨"tags", "[String!]", none, false, true, some "Use \"labels\".", []⟩], []⟩]
  operations := [⟨.query, "posts", "[Post]", none,
    [⟨"limit", "Int", some "At most.", false, some "10"⟩], .unit "Posts" (by decide),
    [⟨"cached", [("for", .decimal (.finite false 1 (-1))), ("by", .texts ["id"])], by decide,
      by decide⟩], {}⟩]
  description := none
  typesDistinct := by decide
  typesFree := by decide
  operationsDistinct := by decide

/-- What the types and defaults of the posts mean. -/
def postMeaning : Meaning where
  reference text :=
    if text = "[String!]" then .list (.nonNull (.named "String"))
    else if text = "[Post]" then .list (.named "Post")
    else .named text
  constant text := .integer text

/-- The posts have names, types and constants of the language. -/
theorem postSchema_fits : postMeaning.FitsSchema Parser.nestingLimit postSchema none := by
  have tags : postMeaning.FitsType Parser.nestingLimit "[String!]" :=
    ⟨.token (by decide) rfl (.token (by decide) rfl (.token (by decide) rfl
      (.token (by decide) rfl (.done [])))), rfl, trivial⟩
  have posts : postMeaning.FitsType Parser.nestingLimit "[Post]" :=
    ⟨.token (by decide) rfl (.token (by decide) rfl (.token (by decide) rfl (.done []))), trivial⟩
  have limit : postMeaning.FitsType Parser.nestingLimit "Int" :=
    ⟨.token (by decide) rfl (.done []), trivial⟩
  have ten : postMeaning.FitsConstant Parser.nestingLimit "10" :=
    ⟨.token (by decide) rfl (.done []), trivial⟩
  have reason : FitsDeprecation true (some "Use \"labels\".") :=
    fun _ => ⟨_, rfl, by decide, by decide +kernel⟩
  refine ⟨fun type member => ?_, fun operation member => ?_, fun value none => nomatch none⟩
  · rw [List.mem_singleton.mp member]
    refine ⟨rfl, ?_, (fun _ _ member => nomatch member), fun field member => ?_,
      (fun _ member => nomatch member), (fun _ member => nomatch member)⟩
    · rintro value ⟨⟩
      decide +kernel
    · rw [List.mem_singleton.mp member]
      exact ⟨rfl, tags, rfl, (fun _ none => nomatch none), (fun _ member => nomatch member), reason⟩
  · rw [List.mem_singleton.mp member]
    refine ⟨rfl, posts, (fun _ none => nomatch none), fun argument member => ?_,
      fun applied member => ?_⟩
    · rw [List.mem_singleton.mp member]
      refine ⟨rfl, limit, rfl, ?_, ?_⟩
      · rintro value ⟨⟩
        decide +kernel
      · rintro value ⟨⟩
        exact ten
    · rw [List.mem_singleton.mp member]
      refine ⟨rfl, fun argument given => ?_⟩
      rcases List.mem_cons.mp given with rfl | given
      · exact ⟨rfl, trivial⟩
      · rw [List.mem_singleton.mp given]
        refine ⟨rfl, fun value member => ?_⟩
        rw [List.mem_singleton.mp member]
        decide +kernel

/-- The posts are written as a document that is parsed as what they mean. -/
theorem parse_postSchema : postMeaning.FitsSchema Parser.nestingLimit postSchema none ∧
    postSchema.isEmpty = false ∧ isWritable postSchema = true ∧
    ∃ document, writtenSchema? postSchema none = some document ∧
      parse document.toList = .ok (postMeaning.schemaDefinitions postSchema none) :=
  ⟨postSchema_fits, rfl, rfl, parse_writtenSchema postSchema_fits rfl rfl⟩

/-- A type with a description, a single field and directives. -/
def singleFieldSchema (text : Option String) (type : String) (applied : List Directive) :
    Schema where
  types := [⟨"T", text, .object [⟨"f", type, none, true, false, none, []⟩], applied⟩]
  operations := []
  description := none
  typesDistinct := by simp
  typesFree := by simp [Root.isName, Root.all, Root.name]
  operationsDistinct := by simp

/-- A single field has names of the language if it has a type of the language. -/
theorem singleFieldSchema_fits {meaning : Meaning} {room : Nat} {type : String}
    (typed : meaning.FitsType room type)
    (nullable : (meaning.reference type).isNonNull = false) :
    meaning.FitsSchema room (singleFieldSchema none type []) none := by
  have named : isName "T" = true ∧ isName "f" = true := by decide
  -- There is one type with one field, and nothing else to ask about.
  refine ⟨fun one member => ?_, (fun _ member => nomatch member), fun _ none => nomatch none⟩
  rw [List.mem_singleton.mp member]
  refine ⟨named.1, (fun _ none => nomatch none), (fun _ _ member => nomatch member),
    fun field member => ?_, (fun _ member => nomatch member), (fun _ member => nomatch member)⟩
  rw [List.mem_singleton.mp member]
  exact ⟨named.2, typed, nullable, (fun _ none => nomatch none), (fun _ member => nomatch member),
    fun deprecated => nomatch deprecated⟩

/-- A printed type with more lists in one another than the parser has room for is refused. -/
theorem parse_singleFieldSchema {meaning : Meaning} {room : Nat} {type : String}
    (typed : meaning.FitsType room type) (nullable : (meaning.reference type).isNonNull = false)
    (deep : Parser.nestingLimit < (meaning.reference type).depth) :
    parse (renderSchema (singleFieldSchema none type []) none).toList =
      .error .nestedTooDeeply := by
  have shown := Meaning.showsDocument (singleFieldSchema_fits typed nullable)
  have scans := shown.scans (blocks_ne_nil (.inl (by simp [singleFieldSchema])) _)
  rw [View.see_plain] at scans
  -- What the parser meets: a type whose only field has the type that is too deep.
  have meant : (meaning.definitions (singleFieldSchema none type []).types
      (singleFieldSchema none type []).operations
      (shownDescription (singleFieldSchema none type []) none)).flatMap Definition.tokens ++
        [.finish] =
        .name "type" :: .name "T" :: .mark .braceOpen :: .name "f" :: .mark .colon ::
          (meaning.reference type).tokens ++ [.mark .braceClose, .finish] := by
    simp [Meaning.definitions, singleFieldSchema, Schema.presentRoots, sortedBy,
      Meaning.definitionOf, Definition.tokens, Meaning.contentOf, TypeContent.tokens, enclosed,
      FieldDefinition.tokens, Meaning.fieldOf, Meaning.typeOf, described, descriptionTokens,
      deprecationOf]
  have clean := scans.clean_finish
  rw [meant] at clean
  exact parse_eq_error deep (scans.lex_eq.trans meant) clean

/-- Lists of lists around a name. -/
def nestedLists : Nat → TypeReference
  | 0 => .named "Int"
  | depth + 1 => .list (nestedLists depth)

/-- The text of lists of lists. -/
def nestedText : Nat → List Char
  | 0 => ['I', 'n', 't']
  | depth + 1 => '[' :: nestedText depth ++ [']']

/-- Lists of lists are written for what they are, and take room for each list. -/
theorem nestedLists_fits (depth : Nat) :
    Prints (nestedText depth) (nestedLists depth).tokens ∧ (nestedLists depth).Fits depth ∧
      (nestedLists depth).isNonNull = false ∧ (nestedLists depth).depth = depth := by
  -- Each list stands in brackets and takes one of the room.
  induction depth with
  | zero => exact ⟨@Prints.name "Int" rfl, trivial, rfl, rfl⟩
  | succ depth ih =>
    obtain ⟨printed, fits, -, counted⟩ := ih
    refine ⟨?_, fits, rfl, by rw [nestedLists, TypeReference.depth, counted]⟩
    have closed : Breaks [']'] := by
      rintro c ⟨⟩
      decide
    exact .mark rfl (printed.append closed (.mark rfl .nil))

/-- What lists of lists mean, whatever else is written. -/
def nestedMeaning (depth : Nat) : Meaning where
  reference _ := nestedLists depth
  constant := .string

/-- A directive with an integer of more digits than are written. -/
def overlongDirective : Directive where
  name := "size"
  arguments := [("is", .integer (Nat.pow 10 Number.digitLimit : Nat))]
  named := by decide
  bounded argument member := by
    rw [List.mem_singleton.mp member]
    rfl

/-- Lists too deep in one another, half of a character and an overlong integer are not read back. -/
theorem writtenSchema_refused :
    ((nestedMeaning 201).FitsSchema 201
        (singleFieldSchema none (String.ofList (nestedText 201)) []) none ∧
      parse (renderSchema (singleFieldSchema none (String.ofList (nestedText 201)) [])
        none).toList = .error .nestedTooDeeply) ∧
    (∃ fault, parse (renderSchema (singleFieldSchema
      (some (String.singleton (Text.ofCode 0xd800))) "Int" []) none).toList = .error fault) ∧
    writtenSchema? (singleFieldSchema none "Int" [overlongDirective]) none = none := by
  obtain ⟨printed, fits, nullable, counted⟩ := nestedLists_fits 201
  -- The nested type has all that is asked for but its depth.
  have typed : (nestedMeaning 201).FitsType 201 (String.ofList (nestedText 201)) :=
    ⟨by rw [String.toList_ofList]; exact printed.scans, fits⟩
  refine ⟨⟨singleFieldSchema_fits typed nullable, parse_singleFieldSchema typed nullable ?_⟩,
    ?_, ?_⟩
  · change 200 < (nestedLists 201).depth
    omega
  · -- The lexer gives up on the lone half in the description.
    have lexed : lex (renderSchema (singleFieldSchema
        (some (String.singleton (Text.ofCode 0xd800))) "Int" []) none).toList =
          [.invalid (.loneHalf false)] := by
      decide +kernel
    unfold parse
    rw [lexed]
    exact ⟨_, rfl⟩
  · have overlong : isWritable (singleFieldSchema none "Int" [overlongDirective]) = false := by
      decide +kernel
    rw [writtenSchema?, overlong]
    rfl

end AppSync.Sdl
