import AppSync.Proofs.Sdl.Quiet
import AppSync.Proofs.Sdl.RoundTrip

/-!
A well-formed schema is printed as a document that passes the check, whatever its free texts say:
descriptions need only stay whole when parentheses around blanks are dropped from them, and so do
defaults.
-/

namespace AppSync.Sdl

section WellFormed

variable (room : Nat)

/-- A text is written for a type, without comments, whose lists have room. -/
def IsTypeText (text : String) (type : TypeReference) : Prop :=
  Scans text.toList type.tokens [] ∧ type.Fits room

/-- A text is written for a constant, without comments, whose collections have room. -/
def IsConstantText (text : List Char) (literal : Literal) : Prop :=
  Scans text literal.tokens [] ∧ literal.Fits room

/-- A member has a type of the language, which rules null out itself only if the member may. -/
def HasType (text : String) (isNullable : Bool) : Prop :=
  ∃ type, IsTypeText room text type ∧ (isNullable = false → type.isNonNull = false)

/-- Fields with names, types and directives of the language. -/
structure WellFormedField (field : Field) : Prop where
  named : isName field.name = true
  typed : HasType room field.type field.isNullable
  described : IsWhole field.description
  directives : ∀ applied ∈ field.directives, FitsDirective applied
  deprecated : IsWhole field.deprecationReason

/-- Values of enums with names of the language that are not reserved. -/
structure WellFormedValue (value : EnumValue) : Prop where
  named : isName value.name = true
  free : value.name ∉ Parser.reservedValues
  described : IsWhole value.description
  deprecated : IsWhole value.deprecationReason

/-- Arguments with names, types and defaults of the language. -/
structure WellFormedArgument (argument : Argument) : Prop where
  named : isName argument.name = true
  typed : HasType room argument.type argument.isNullable
  described : IsWhole argument.description
  default : ∀ value ∈ argument.defaultValue, ∃ literal, IsConstantText room value.toList literal

/-- Operations with names, types and directives of the language. -/
structure WellFormedOperation (operation : Operation) : Prop where
  named : isName operation.fieldName = true
  typed : ∃ type, IsTypeText room operation.returnType type
  described : IsWhole operation.description
  arguments : ∀ argument ∈ operation.arguments, WellFormedArgument room argument
  directives : ∀ applied ∈ operation.directives, FitsDirective applied

/-- Types with names of the language; the directives of an enum are not looked at. -/
structure WellFormedType (type : NamedType) : Prop where
  named : isName type.name = true
  described : IsWhole type.description
  directives : type.body.kind ≠ .enum → ∀ applied ∈ type.directives, FitsDirective applied
  fields : ∀ field ∈ type.body.fields, WellFormedField room field
  values : ∀ value ∈ type.body.values, WellFormedValue value
  members : ∀ member ∈ type.body.members, isName member = true

/-- Schemas with names, types and constants of the language; deprecated members need no reason. -/
structure WellFormed (schema : Schema) (text : Option String) : Prop where
  types : ∀ type ∈ schema.types, WellFormedType room type
  operations : ∀ operation ∈ schema.operations, WellFormedOperation room operation
  described : IsWhole (shownDescription schema text)

/-- Descriptions and defaults that stay what they are when parentheses are dropped from them. -/
structure Quiet (schema : Schema) (text : Option String) : Prop where
  described : schema.operations ≠ [] → IsQuiet (shownDescription schema text) ""
  types : ∀ type ∈ schema.types, IsQuiet type.description ""
  fields : ∀ type ∈ schema.types, ∀ field ∈ type.body.fields, IsQuiet field.description memberIndent
  values : ∀ type ∈ schema.types, ∀ value ∈ type.body.values, IsQuiet value.description memberIndent
  operations : ∀ operation ∈ schema.operations, IsQuiet operation.description memberIndent
  arguments : ∀ operation ∈ schema.operations, ∀ argument ∈ operation.arguments,
    IsQuiet argument.description argumentIndent
  defaults : ∀ operation ∈ schema.operations, ∀ argument ∈ operation.arguments,
    ∀ value ∈ argument.defaultValue,
      ∃ literal, IsConstantText room (dropEmptyArguments value.toList) literal

end WellFormed

variable {room : Nat}

/-- Items by name go with a list, if each of them goes with something. -/
theorem exists_sorted {α β : Type} {relation : α → β → Prop} {items : List α} (name : α → String)
    (each : ∀ item ∈ items, ∃ meaning, relation item meaning) :
    ∃ meanings, List.Forall₂ relation (sortedBy name items) meanings :=
  exists_forall₂ fun item member => each item (mem_sortedBy.mp member)

/-- A literal is seen as a constant. -/
theorem exists_showsValue {value : DirectiveValue} (bounded : value.isBounded = true)
    (whole : WholeValue value) : ∃ constant, ShowsValue .dropping value constant := by
  -- Only texts are written in quotes, where parentheses may be dropped.
  cases value with
  | text value =>
    obtain ⟨text, shows⟩ := exists_showsText whole
    exact ⟨_, .text shows⟩
  | integer value => exact ⟨_, .integer value⟩
  | decimal value => exact ⟨_, .decimal bounded⟩
  | flag value => exact ⟨_, .flag value⟩
  | texts values =>
    obtain ⟨texts, each⟩ := exists_forall₂ fun value member => exists_showsText (whole value member)
    exact ⟨_, .texts each⟩

/-- A directive is seen as a directive. -/
theorem exists_showsDirective {applied : Directive} (fits : FitsDirective applied) :
    ∃ annotation, ShowsDirective .dropping applied annotation := by
  -- Its arguments keep their names, with constants for their values.
  have each : ∀ argument ∈ applied.arguments, ∃ given : String × Literal,
      isName argument.1 = true ∧ given.1 = argument.1 ∧
        ShowsValue .dropping argument.2 given.2 := by
    intro argument member
    obtain ⟨named, whole⟩ := fits.arguments argument member
    obtain ⟨constant, shows⟩ := exists_showsValue (applied.bounded argument member) whole
    exact ⟨(argument.1, constant), named, rfl, shows⟩
  obtain ⟨arguments, shows⟩ := exists_forall₂ each
  exact ⟨⟨applied.name, arguments⟩, fits.named, rfl, shows⟩

/-- Directives are seen as directives. -/
theorem exists_showsDirectives {applied : List Directive}
    (fits : ∀ one ∈ applied, FitsDirective one) :
    ∃ annotations, List.Forall₂ (ShowsDirective .dropping) applied annotations :=
  exists_forall₂ fun one member => exists_showsDirective (fits one member)

/-- The mark of a deprecated member is seen, with a reason or without one. -/
theorem exists_showsDeprecation {reason : Option String} (whole : IsWhole reason)
    (isDeprecated : Bool) : ∃ marks, ShowsDeprecation .dropping reason isDeprecated marks := by
  cases isDeprecated with
  | false => exact ⟨[], .none⟩
  | true =>
    cases given : reason.filter (· ≠ "") with
    | none => exact ⟨_, .bare given shows_bareDeprecation⟩
    | some text =>
      obtain ⟨said, shows⟩ := exists_showsText (whole text (Option.mem_filter_iff.mp given).1)
      exact ⟨_, .reason given shows⟩

/-- The type of a member is seen as a type. -/
theorem exists_showsReference {text : String} {isNullable : Bool}
    (typed : HasType room text isNullable) :
    ∃ type, ShowsReference .dropping room (typeText text isNullable) type := by
  obtain ⟨type, ⟨scans, fits⟩, nullable⟩ := typed
  exact ⟨_, (ShowsReference.of_scans scans fits).marked nullable⟩

/-- A field is seen as a field. -/
theorem exists_showsMember {field : Field} (fits : WellFormedField room field)
    (quiet : IsQuiet field.description memberIndent) :
    ∃ description type annotations marks,
      ShowsMember .dropping room field description type annotations marks := by
  obtain ⟨description, described, -⟩ :=
    exists_showsDescription fits.described memberIndent_blank quiet
  obtain ⟨type, typed⟩ := exists_showsReference fits.typed
  obtain ⟨annotations, applied⟩ := exists_showsDirectives fits.directives
  obtain ⟨marks, deprecated⟩ := exists_showsDeprecation fits.deprecated field.isDeprecated
  exact ⟨description, type, annotations, marks, fits.named, described, typed, applied, deprecated⟩

/-- Members are seen by name as what each of them is seen as. -/
theorem exists_sortedMembers {α : Type} {relation : Field → α → Prop} {fields : List Field}
    (each : ∀ field ∈ fields, ∃ description type annotations marks,
      ShowsMember .dropping room field description type annotations marks)
    (seen : ∀ field description type annotations marks,
      ShowsMember .dropping room field description type annotations marks →
        ∃ definition, relation field definition) :
    ∃ definitions, List.Forall₂ relation (sortedBy Field.name fields) definitions := by
  refine exists_sorted Field.name fun field member => ?_
  obtain ⟨description, type, annotations, marks, shows⟩ := each field member
  exact seen field description type annotations marks shows

/-- A value of an enum is seen as one. -/
theorem exists_showsEnumValue {value : EnumValue} (fits : WellFormedValue value)
    (quiet : IsQuiet value.description memberIndent) :
    ∃ definition, ShowsEnumValue .dropping value definition := by
  obtain ⟨description, described, -⟩ :=
    exists_showsDescription fits.described memberIndent_blank quiet
  obtain ⟨marks, deprecated⟩ := exists_showsDeprecation fits.deprecated value.isDeprecated
  exact ⟨_, .intro fits.named fits.free described deprecated⟩

/-- An argument is seen as one, if its default stays a constant. -/
theorem exists_showsArgument {argument : Argument} (fits : WellFormedArgument room argument)
    (quiet : IsQuiet argument.description argumentIndent)
    (constant : ∀ value ∈ argument.defaultValue,
      ∃ literal, IsConstantText room (dropEmptyArguments value.toList) literal) :
    ∃ definition, ShowsArgument .dropping room argument definition := by
  obtain ⟨description, described, undescribed⟩ :=
    exists_showsDescription fits.described argumentIndent_blank quiet
  obtain ⟨type, typed⟩ := exists_showsReference fits.typed
  -- A default is seen as it is by itself, since no parenthesis is open at its end.
  have defaulted : ∃ default, Option.Rel (ShowsConstant .dropping room)
      argument.defaultValue default := by
    cases given : argument.defaultValue with
    | none => exact ⟨none, .none⟩
    | some value =>
      obtain ⟨written, scans, -⟩ := fits.default value given
      obtain ⟨literal, seen, fitting⟩ := constant value given
      exact ⟨some literal, .some (.of_scans scans seen fitting)⟩
  obtain ⟨default, defaulted⟩ := defaulted
  exact ⟨_, .intro fits.named described undescribed typed defaulted⟩

/-- A named type is seen as one. -/
theorem exists_showsType {type : NamedType} (fits : WellFormedType room type)
    (quiet : IsQuiet type.description "")
    (quietFields : ∀ field ∈ type.body.fields, IsQuiet field.description memberIndent)
    (quietValues : ∀ value ∈ type.body.values, IsQuiet value.description memberIndent) :
    ∃ definition, ShowsType .dropping room type definition := by
  obtain ⟨description, described, -⟩ := exists_showsDescription fits.described (by simp) quiet
  have applied := fun other => exists_showsDirectives (fits.directives other)
  have fields := fun field member =>
    exists_showsMember (fits.fields field member) (quietFields field member)
  have values := fun value member =>
    exists_showsEnumValue (fits.values value member) (quietValues value member)
  have members := fits.members
  -- The members of the type are seen by name.
  have body : ∃ content, ShowsBody .dropping room type type.body content := by
    cases body : type.body with
    | object own =>
      rw [body] at applied fields
      obtain ⟨annotations, applied⟩ := applied (by simp [TypeBody.kind])
      obtain ⟨definitions, each⟩ := exists_sortedMembers fields
        fun _ _ _ _ _ shows => ⟨_, ShowsField.intro shows⟩
      exact ⟨_, .object applied each⟩
    | input own =>
      rw [body] at applied fields
      obtain ⟨annotations, applied⟩ := applied (by simp [TypeBody.kind])
      obtain ⟨definitions, each⟩ := exists_sortedMembers fields
        fun _ _ _ _ _ shows => ⟨_, ShowsInput.intro shows⟩
      exact ⟨_, .input applied each⟩
    | interface own =>
      rw [body] at applied fields
      obtain ⟨annotations, applied⟩ := applied (by simp [TypeBody.kind])
      obtain ⟨definitions, each⟩ := exists_sortedMembers fields
        fun _ _ _ _ _ shows => ⟨_, ShowsField.intro shows⟩
      exact ⟨_, .interface applied each⟩
    | enum own =>
      rw [body] at values
      obtain ⟨definitions, each⟩ := exists_sorted EnumValue.name values
      exact ⟨_, .enum each⟩
    | union own =>
      rw [body] at applied members
      obtain ⟨annotations, applied⟩ := applied (by simp [TypeBody.kind])
      exact ⟨_, .union applied members⟩
  obtain ⟨content, body⟩ := body
  exact ⟨_, .intro fits.named described body⟩

variable {schema : Schema} {text : Option String}

/-- An operation is seen as a field of its root type. -/
theorem exists_showsOperation (fits : WellFormed room schema text) (quiet : Quiet room schema text)
    {operation : Operation} (member : operation ∈ schema.operations) :
    ∃ definition, ShowsOperation .dropping room operation definition := by
  have own := fits.operations operation member
  obtain ⟨description, described, -⟩ :=
    exists_showsDescription own.described memberIndent_blank (quiet.operations operation member)
  obtain ⟨type, scans, fitting⟩ := own.typed
  obtain ⟨annotations, applied⟩ := exists_showsDirectives own.directives
  obtain ⟨arguments, given⟩ := exists_forall₂ fun argument found =>
    exists_showsArgument (own.arguments argument found)
      (quiet.arguments operation member argument found)
      (quiet.defaults operation member argument found)
  -- All its parts are seen, so that it is seen as the field they make.
  exact ⟨_, .intro own.named described given (.of_scans scans fitting) applied⟩

/-- A root type is seen with its operations. -/
theorem exists_showsRoot (fits : WellFormed room schema text) (quiet : Quiet room schema text)
    (root : Root) :
    ∃ definition,
      ShowsRoot .dropping room schema.operations root definition := by
  obtain ⟨definitions, each⟩ := exists_sorted Operation.fieldName fun operation member =>
    exists_showsOperation fits quiet
      (List.mem_filter (p := fun operation => operation.root = root) |>.mp member).1
  exact ⟨_, .intro each⟩

/-- A well-formed schema with quiet texts is seen as definitions. -/
theorem exists_showsDocument (fits : WellFormed room schema text) (quiet : Quiet room schema text) :
    ∃ definitions, ShowsDocument .dropping room schema.types schema.operations
      (shownDescription schema text) definitions := by
  -- A schema without operations has no schema block, which would carry the description.
  have headed : ∃ heading, ShowsHeading .dropping (Schema.presentRoots schema.operations)
      (shownDescription schema text) heading := by
    by_cases rootless : Schema.presentRoots schema.operations = []
    · exact ⟨_, .none rootless⟩
    · have some_operation : schema.operations ≠ [] := by
        intro none
        rw [none] at rootless
        exact rootless rfl
      obtain ⟨description, described, -⟩ :=
        exists_showsDescription fits.described (by simp) (quiet.described some_operation)
      exact ⟨_, .some rootless described⟩
  obtain ⟨heading, headed⟩ := headed
  obtain ⟨named, each⟩ := exists_sorted NamedType.name fun type member =>
    exists_showsType (fits.types type member) (quiet.types type member) (quiet.fields type member)
      (quiet.values type member)
  obtain ⟨roots, rooted⟩ := exists_forall₂ fun root (_ : root ∈ Schema.presentRoots _) =>
    exists_showsRoot fits quiet root
  exact ⟨_, .intro headed each rooted⟩

/-- The definitions that are read of a document once empty argument lists are dropped. -/
def read (document : String) : Except GrammarFault (List Definition) :=
  if Text.isBlankText document then .ok [] else parse (dropEmptyArguments document.toList)

/-- A document passes the check if it can be read. -/
theorem check_eq (document : String) : check document = (read document).map fun _ => () := by
  unfold check read
  split <;> rfl

/-- The document of a schema is that of its parts and of the description that is shown. -/
theorem renderSchema_eq (schema : Schema) (text : Option String) :
    renderSchema schema text =
      render schema.types schema.operations (shownDescription schema text) :=
  rfl

/--
The document of a well-formed schema with quiet texts is read as what it is seen as, or refused
where there may be no room for it.
-/
theorem exists_read_or (fits : WellFormed room schema text) (quiet : Quiet room schema text)
    {sure : Prop} (within : sure → room ≤ Parser.nestingLimit) :
    ∃ definitions, ShowsDocument .dropping room schema.types schema.operations
        (shownDescription schema text) definitions ∧
      (read (renderSchema schema text) = .ok definitions ∨
        (¬sure ∧ ∃ fault, read (renderSchema schema text) = .error fault)) := by
  obtain ⟨definitions, shows⟩ := exists_showsDocument fits quiet
  refine ⟨definitions, shows, ?_⟩
  rw [renderSchema_eq, read]
  by_cases some_block : blocks schema.types schema.operations (shownDescription schema text) = []
  · -- Without a block there is no definition, and nothing to be read.
    have counted := shows.length_eq
    rw [some_block, List.length_nil, List.length_eq_zero_iff] at counted
    rw [counted, render, some_block]
    exact .inl rfl
  · rw [if_neg (by simp [isBlankText_render shows some_block]), ← View.see_dropping]
    exact shows.parse_eq_or some_block within

/-- The document of a well-formed schema with quiet texts is read if there is room for it. -/
theorem exists_read_renderSchema (fits : WellFormed room schema text)
    (quiet : Quiet room schema text) (within : room ≤ Parser.nestingLimit) :
    ∃ definitions, read (renderSchema schema text) = .ok definitions := by
  obtain ⟨definitions, -, readable⟩ := exists_read_or fits quiet fun _ : True => within
  exact ⟨definitions, readable.resolve_right fun refused => refused.1 trivial⟩

/-- The document of a well-formed schema with quiet texts passes the check. -/
theorem check_writtenSchema (fits : WellFormed Parser.nestingLimit schema text)
    (quiet : Quiet Parser.nestingLimit schema text) (writable : isWritable schema = true) :
    ∃ document, writtenSchema? schema text = some document ∧ check document = .ok () := by
  obtain ⟨definitions, readable⟩ := exists_read_renderSchema fits quiet (Nat.le_refl _)
  refine ⟨renderSchema schema text, if_pos writable, ?_⟩
  rw [check_eq, readable]
  rfl

/-- A post with parentheses around blanks in its texts, and one in a default. -/
def bracketedSchema : Schema where
  types := [⟨"Post", some "Call () and \"quote\" it.",
    .object [⟨"id", "ID", some "Empty: ( ).", false, true, none, []⟩],
    [⟨"note", [("says", .text "\"()\"")], by decide, by decide⟩]⟩]
  operations := [⟨.query, "post", "Post", none,
    [⟨"named", "String", some "()", true, some "\"()\""⟩],
    .unit "Archive" (by decide), [], {}⟩]
  description := none
  typesDistinct := by decide
  typesFree := by decide
  operationsDistinct := by decide

/-- A name is written for the type of that name. -/
theorem isTypeText_name {name : String} (named : isName name = true) :
    IsTypeText room name (.named name) :=
  ⟨(Prints.name named).scans, trivial⟩

/-- The post has names, types and constants of the language. -/
theorem bracketedSchema_wellFormed : WellFormed room bracketedSchema none := by
  have quoted : Text.hasHalves "\"()\"" = false := by decide +kernel
  have whole (text : String) (halves : Text.hasHalves text = false) : IsWhole (some text) := by
    rintro value ⟨⟩
    exact halves
  refine ⟨fun type member => ?_, fun operation member => ?_, isWhole_none⟩
  · rw [List.mem_singleton.mp member]
    refine ⟨rfl, whole _ (by decide +kernel), fun _ applied given => ?_, fun field given => ?_,
      List.forall_mem_nil _, List.forall_mem_nil _⟩
    · rw [List.mem_singleton.mp given]
      refine ⟨rfl, fun argument given => ?_⟩
      rw [List.mem_singleton.mp given]
      exact ⟨rfl, quoted⟩
    · rw [List.mem_singleton.mp given]
      exact ⟨rfl, ⟨_, isTypeText_name (by decide), fun _ => rfl⟩, whole _ (by decide +kernel),
        List.forall_mem_nil _, isWhole_none⟩
  · rw [List.mem_singleton.mp member]
    refine ⟨rfl, ⟨_, isTypeText_name (by decide)⟩, isWhole_none, fun argument given => ?_,
      List.forall_mem_nil _⟩
    rw [List.mem_singleton.mp given]
    refine ⟨rfl, ⟨_, isTypeText_name (by decide), fun _ => rfl⟩, whole _ (by decide +kernel), ?_⟩
    rintro value ⟨⟩
    exact ⟨.string "()", .token (by decide) (by decide +kernel) (.done []),
      @Literal.fits_of_isPlain (.string "()") trivial room⟩

/-- No quotes of the post meet when its parentheses are dropped. -/
theorem bracketedSchema_quiet : Quiet room bracketedSchema none := by
  have quiet (text indent : String)
      (apart : isQuiet (dropEmptyArguments (insideDescription text indent)) = true) :
      IsQuiet (some text) indent := by
    rintro value ⟨⟩
    exact apart
  -- Described are the type, its field and the argument, with parentheses in each.
  refine ⟨fun _ => isQuiet_none, fun type member => ?_, fun type member field given => ?_,
    fun type member value given => ?_, fun operation member => ?_,
    fun operation member argument given => ?_, fun operation member argument given => ?_⟩
  · rw [List.mem_singleton.mp member]
    exact quiet _ _ (by decide +kernel)
  · rw [List.mem_singleton.mp member] at given
    rw [List.mem_singleton.mp given]
    exact quiet _ _ (by decide +kernel)
  · rw [List.mem_singleton.mp member] at given
    cases given
  · rw [List.mem_singleton.mp member]
    exact isQuiet_none
  · rw [List.mem_singleton.mp member] at given
    rw [List.mem_singleton.mp given]
    exact quiet _ _ (by decide +kernel)
  · rw [List.mem_singleton.mp member] at given
    rw [List.mem_singleton.mp given]
    rintro value ⟨⟩
    exact ⟨.string "", .token (by decide) (by decide +kernel) (.done []),
      @Literal.fits_of_isPlain (.string "") trivial room⟩

/-- The document of the post passes the check. -/
theorem check_bracketedSchema : WellFormed Parser.nestingLimit bracketedSchema none ∧
    Quiet Parser.nestingLimit bracketedSchema none ∧ isWritable bracketedSchema = true ∧
    ∃ document, writtenSchema? bracketedSchema none = some document ∧ check document = .ok () :=
  ⟨bracketedSchema_wellFormed, bracketedSchema_quiet, rfl,
    check_writtenSchema bracketedSchema_wellFormed bracketedSchema_quiet rfl⟩

/-- A description in which dropped parentheses join three quotes makes the check fail. -/
theorem check_joinedQuotes :
    WellFormed Parser.nestingLimit (singleFieldSchema (some "\"\"()\"") "Int" []) none ∧
      isWritable (singleFieldSchema (some "\"\"()\"") "Int" []) = true ∧
      ∃ fault, check (renderSchema (singleFieldSchema (some "\"\"()\"") "Int" []) none) =
        .error fault := by
  have whole : IsWhole (some "\"\"()\"") := by
    rintro value ⟨⟩
    decide +kernel
  refine ⟨⟨fun type member => ?_, List.forall_mem_nil _, isWhole_none⟩, rfl, ?_⟩
  · rw [List.mem_singleton.mp member]
    refine ⟨rfl, whole, fun _ => List.forall_mem_nil _, fun field given => ?_,
      List.forall_mem_nil _, List.forall_mem_nil _⟩
    rw [List.mem_singleton.mp given]
    exact ⟨rfl, ⟨_, isTypeText_name (by decide), fun _ => rfl⟩, isWhole_none,
      List.forall_mem_nil _, isWhole_none⟩
  · -- The description ends too early, and the string behind it does not end.
    have lexed : lex (dropEmptyArguments (renderSchema (singleFieldSchema
        (some "\"\"()\"") "Int" []) none).toList) =
          [.block "", .invalid .unterminated] := by
      decide +kernel
    have filled : Text.isBlankText (renderSchema (singleFieldSchema
        (some "\"\"()\"") "Int" []) none) = false := by
      decide +kernel
    unfold check parse
    rw [filled, lexed]
    exact ⟨_, rfl⟩

end AppSync.Sdl
