import AppSync.Proofs.Pairing
import AppSync.Proofs.Sdl.Block
import AppSync.Proofs.Sdl.View
import AppSync.Sdl.Printer

/-!
What the printed parts of a schema are seen as: definitions with the same names, whose descriptions,
types, constants and directives are those that the texts are seen as. Types and constants take no
more than the room that there is for lists and objects in one another.
-/

namespace AppSync.Sdl

variable (view : View)

/-- A quoted text is seen as a string. -/
def ShowsText (value text : String) : Prop :=
  Shows view (Json.quote value).toList [.string text]

/-- A literal is seen as a constant of its kind. -/
inductive ShowsValue : DirectiveValue → Literal → Prop where
  | flag (value : Bool) : ShowsValue (.flag value) (.boolean value)
  | integer (value : Int) : ShowsValue (.integer value) (.integer (toString value))
  | decimal {value : Binary64} (finite : value.isFinite = true) :
    ShowsValue (.decimal value) (.decimal value.text)
  | text {value text : String} (shows : ShowsText view value text) :
    ShowsValue (.text value) (.string text)
  | texts {values texts : List String} (each : List.Forall₂ (ShowsText view) values texts) :
    ShowsValue (.texts values) (.list (texts.map .string))

/-- A directive is seen as one with its name, and with its arguments in their order. -/
structure ShowsDirective (applied : Directive) (meant : Annotation) : Prop where
  named : isName applied.name = true
  name : meant.name = applied.name
  arguments : List.Forall₂ (fun argument given => isName argument.1 = true ∧
    given.1 = argument.1 ∧ ShowsValue view argument.2 given.2) applied.arguments meant.arguments

/-- The mark of a deprecated member is seen with its reason, or without one if it gives none. -/
inductive ShowsDeprecation (reason : Option String) : Bool → List Annotation → Prop where
  | none : ShowsDeprecation reason false []
  | bare (unsaid : reason.filter (· ≠ "") = Option.none)
    (shows : Shows view " @deprecated()".toList [.mark .at, .name "deprecated"]) :
    ShowsDeprecation reason true [⟨"deprecated", []⟩]
  | reason {text said : String} (given : reason.filter (· ≠ "") = some text)
    (shows : ShowsText view text said) :
    ShowsDeprecation reason true [⟨"deprecated", [("reason", .string said)]⟩]

/-- A description on lines of its own is seen as a block string, or is not there. -/
def ShowsDescription (text : Option String) (indent : String) (description : Option String) :
    Prop :=
  Shows view (onLines (Sdl.description text indent)) (descriptionTokens description)

variable (room : Nat)

/-- A text is seen as a type that there is room for. -/
structure ShowsReference (text : String) (type : TypeReference) : Prop where
  shows : Shows view text.toList type.tokens
  room : type.Fits room

/-- A text is seen as a constant that there is room for. -/
structure ShowsConstant (text : String) (literal : Literal) : Prop where
  shows : Shows view text.toList literal.tokens
  room : literal.Fits room

/-- A field is seen as a description, a type and directives. -/
structure ShowsMember (field : Field) (description : Option String) (type : TypeReference)
    (annotations marks : List Annotation) : Prop where
  named : isName field.name = true
  described : ShowsDescription view field.description memberIndent description
  typed : ShowsReference view room (typeText field.type field.isNullable) type
  applied : List.Forall₂ (ShowsDirective view) field.directives annotations
  deprecated : ShowsDeprecation view field.deprecationReason field.isDeprecated marks

/-- A field of an object or interface takes no arguments. -/
inductive ShowsField (field : Field) : FieldDefinition → Prop where
  | intro {description : Option String} {type : TypeReference} {annotations marks : List Annotation}
    (member : ShowsMember view room field description type annotations marks) :
    ShowsField field ⟨description, field.name, [], type, annotations ++ marks⟩

/-- A field of an input has no default. -/
inductive ShowsInput (field : Field) : InputDefinition → Prop where
  | intro {description : Option String} {type : TypeReference} {annotations marks : List Annotation}
    (member : ShowsMember view room field description type annotations marks) :
    ShowsInput field ⟨description, field.name, type, none, annotations ++ marks⟩

/-- A value of an enum, whose name is not reserved. -/
inductive ShowsEnumValue (value : EnumValue) : EnumValueDefinition → Prop where
  | intro {description : Option String} {marks : List Annotation}
    (named : isName value.name = true) (free : value.name ∉ Parser.reservedValues)
    (described : ShowsDescription view value.description memberIndent description)
    (deprecated : ShowsDeprecation view value.deprecationReason value.isDeprecated marks) :
    ShowsEnumValue value ⟨description, value.name, marks⟩

/-- An argument of an operation with its default. -/
inductive ShowsArgument (argument : Argument) : InputDefinition → Prop where
  | intro {description : Option String} {type : TypeReference} {default : Option Literal}
    (named : isName argument.name = true)
    (described : ShowsDescription view argument.description argumentIndent description)
    (undescribed : isDescribed argument.description = false → description = none)
    (typed : ShowsReference view room (typeText argument.type argument.isNullable) type)
    (defaulted : Option.Rel (ShowsConstant view room) argument.defaultValue default) :
    ShowsArgument argument ⟨description, argument.name, type, default, []⟩

/-- An operation as a field of its root type, with its arguments in their order. -/
inductive ShowsOperation (operation : Operation) : FieldDefinition → Prop where
  | intro {description : Option String} {arguments : List InputDefinition} {type : TypeReference}
    {annotations : List Annotation} (named : isName operation.fieldName = true)
    (described : ShowsDescription view operation.description memberIndent description)
    (given : List.Forall₂ (ShowsArgument view room) operation.arguments arguments)
    (typed : ShowsReference view room operation.returnType type)
    (applied : List.Forall₂ (ShowsDirective view) operation.directives annotations) :
    ShowsOperation operation ⟨description, operation.fieldName, arguments, type, annotations⟩

/-- What a type consists of, its members by name; an enum has no directives. -/
inductive ShowsBody (type : NamedType) : TypeBody → TypeContent → Prop where
  | object {fields : List Field} {definitions : List FieldDefinition}
    {annotations : List Annotation}
    (applied : List.Forall₂ (ShowsDirective view) type.directives annotations)
    (each : List.Forall₂ (ShowsField view room) (sortedBy Field.name fields) definitions) :
    ShowsBody type (.object fields) (.object type.name [] annotations definitions)
  | input {fields : List Field} {definitions : List InputDefinition}
    {annotations : List Annotation}
    (applied : List.Forall₂ (ShowsDirective view) type.directives annotations)
    (each : List.Forall₂ (ShowsInput view room) (sortedBy Field.name fields) definitions) :
    ShowsBody type (.input fields) (.input type.name annotations definitions)
  | interface {fields : List Field} {definitions : List FieldDefinition}
    {annotations : List Annotation}
    (applied : List.Forall₂ (ShowsDirective view) type.directives annotations)
    (each : List.Forall₂ (ShowsField view room) (sortedBy Field.name fields) definitions) :
    ShowsBody type (.interface fields) (.interface type.name [] annotations definitions)
  | enum {values : List EnumValue} {definitions : List EnumValueDefinition}
    (each : List.Forall₂ (ShowsEnumValue view) (sortedBy EnumValue.name values) definitions) :
    ShowsBody type (.enum values) (.enum type.name [] definitions)
  | union {members : List String} {annotations : List Annotation}
    (applied : List.Forall₂ (ShowsDirective view) type.directives annotations)
    (each : ∀ member ∈ members, isName member = true) :
    ShowsBody type (.union members) (.union type.name annotations members)

/-- A named type with its description. -/
inductive ShowsType (type : NamedType) : Definition → Prop where
  | intro {description : Option String} {content : TypeContent} (named : isName type.name = true)
    (described : ShowsDescription view type.description "" description)
    (body : ShowsBody view room type type.body content) : ShowsType type (.type description content)

/-- A root type with its operations by name. -/
inductive ShowsRoot (operations : List Operation) (root : Root) : Definition → Prop where
  | intro {definitions : List FieldDefinition} (each : List.Forall₂ (ShowsOperation view room)
      (sortedBy Operation.fieldName (operations.filter fun operation => operation.root = root))
        definitions) :
    ShowsRoot operations root (.type none (.object root.name [] [] definitions))

/-- The schema block, which is there if there is a root type. -/
inductive ShowsHeading (roots : List Root) (text : Option String) : List Definition → Prop where
  | none (rootless : roots = []) : ShowsHeading roots text []
  | some {description : Option String} (rooted : roots ≠ [])
    (described : ShowsDescription view text "" description) :
    ShowsHeading roots text
      [.type description (.schema [] (roots.map fun root => (root, root.name)))]

/-- A document: the schema block, the types by name and the root types in their order. -/
inductive ShowsDocument (types : List NamedType) (operations : List Operation)
    (text : Option String) : List Definition → Prop where
  | intro {heading named roots : List Definition}
    (headed : ShowsHeading view (Schema.presentRoots operations) text heading)
    (each : List.Forall₂ (ShowsType view room) (sortedBy NamedType.name types) named)
    (rooted : List.Forall₂ (ShowsRoot view room operations) (Schema.presentRoots operations)
      roots) :
    ShowsDocument types operations text (heading ++ named ++ roots)

end AppSync.Sdl
