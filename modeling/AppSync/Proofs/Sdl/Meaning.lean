import AppSync.Proofs.Sdl.Block
import AppSync.Sdl.Printer

/-!
What a schema means as the definitions of a document: the roots, the types by name and the root
types, each with its members by name. Schemas whose names and texts belong to the language have such
a meaning.
-/

namespace AppSync.Sdl

/-- A literal argument of a directive, as a constant. -/
def constantOf : DirectiveValue → Literal
  | .flag value => .boolean value
  | .integer value => .integer (toString value)
  | .decimal value => .decimal value.text
  | .texts values => .list (values.map .string)
  | .text value => .string value

/-- A directive with its arguments in their order. -/
def annotationOf (applied : Directive) : Annotation :=
  ⟨applied.name, applied.arguments.map fun argument => (argument.1, constantOf argument.2)⟩

/-- The mark of a deprecated member with its reason. -/
def deprecationOf (isDeprecated : Bool) (reason : Option String) : List Annotation :=
  if isDeprecated then [⟨"deprecated", [("reason", .string (reason.getD ""))]⟩] else []

/-- The schema block: the kinds of operations that are present, each with its root type. -/
def schemaDefinition (roots : List Root) (text : Option String) : Definition :=
  .type (described text) (.schema [] (roots.map fun root => (root, root.name)))

/-- The description of a document; one that is given replaces the schema's own. -/
def shownDescription (schema : Schema) (text : Option String) : Option String :=
  match text.filter (· ≠ "") with
  | some text => some text
  | none => schema.description

/-- A value of an enum. -/
def enumValueOf (value : EnumValue) : EnumValueDefinition where
  description := described value.description
  name := value.name
  annotations := deprecationOf value.isDeprecated value.deprecationReason

/-- What the texts of types and of defaults mean. -/
structure Meaning where
  reference : String → TypeReference
  constant : String → Literal

namespace Meaning

variable (meaning : Meaning)

/-- The type of a member, which rules null out unless the member is nullable. -/
def typeOf (type : String) (isNullable : Bool) : TypeReference :=
  if isNullable then meaning.reference type else .nonNull (meaning.reference type)

/-- A field of an object or interface; it takes no arguments. -/
def fieldOf (field : Field) : FieldDefinition where
  description := described field.description
  name := field.name
  arguments := []
  type := meaning.typeOf field.type field.isNullable
  annotations := field.directives.map annotationOf ++
    deprecationOf field.isDeprecated field.deprecationReason

/-- A field of an input; it has no default. -/
def inputOf (field : Field) : InputDefinition where
  description := described field.description
  name := field.name
  type := meaning.typeOf field.type field.isNullable
  default := none
  annotations := field.directives.map annotationOf ++
    deprecationOf field.isDeprecated field.deprecationReason

/-- An argument of an operation with its default. -/
def argumentOf (argument : Argument) : InputDefinition where
  description := described argument.description
  name := argument.name
  type := meaning.typeOf argument.type argument.isNullable
  default := argument.defaultValue.map meaning.constant
  annotations := []

/-- An operation as a field of its root type, with its arguments in their order. -/
def operationOf (operation : Operation) : FieldDefinition where
  description := described operation.description
  name := operation.fieldName
  arguments := operation.arguments.map meaning.argumentOf
  type := meaning.reference operation.returnType
  annotations := operation.directives.map annotationOf

/-- A named type with its members by name; an enum has no directives. -/
def contentOf (type : NamedType) : TypeContent :=
  match type.body with
  | .object fields => .object type.name [] (type.directives.map annotationOf)
      ((sortedBy Field.name fields).map meaning.fieldOf)
  | .input fields => .input type.name (type.directives.map annotationOf)
      ((sortedBy Field.name fields).map meaning.inputOf)
  | .interface fields => .interface type.name [] (type.directives.map annotationOf)
      ((sortedBy Field.name fields).map meaning.fieldOf)
  | .enum values => .enum type.name [] ((sortedBy EnumValue.name values).map enumValueOf)
  | .union members => .union type.name (type.directives.map annotationOf) members

/-- A named type with its description. -/
def definitionOf (type : NamedType) : Definition :=
  .type (described type.description) (meaning.contentOf type)

/-- A root type with its operations by name. -/
def rootOf (operations : List Operation) (root : Root) : Definition :=
  .type none (.object root.name [] []
    ((sortedBy Operation.fieldName (operations.filter fun operation => operation.root = root)).map
      meaning.operationOf))

/-- The definitions of a document: the schema block if there is a root, types and root types. -/
def definitions (types : List NamedType) (operations : List Operation) (text : Option String) :
    List Definition :=
  let roots := Schema.presentRoots operations
  (if roots.isEmpty then [] else [schemaDefinition roots text]) ++
    (sortedBy NamedType.name types).map meaning.definitionOf ++
      roots.map (meaning.rootOf operations)

/-- The definitions of a schema. -/
def schemaDefinitions (schema : Schema) (text : Option String) : List Definition :=
  meaning.definitions schema.types schema.operations (shownDescription schema text)

end Meaning

/-- Texts without halves of characters. -/
def IsWhole (text : Option String) : Prop :=
  ∀ value ∈ text, Text.hasHalves value = false

/-- A text that is not there has no halves. -/
theorem isWhole_none : IsWhole none := by
  rintro value ⟨⟩

/-- A literal argument of a directive has no halves of characters in it. -/
def WholeValue : DirectiveValue → Prop
  | .text value => Text.hasHalves value = false
  | .texts values => ∀ value ∈ values, Text.hasHalves value = false
  | _ => True

/-- Directives with names of the language and arguments without halves of characters. -/
structure FitsDirective (applied : Directive) : Prop where
  named : isName applied.name = true
  arguments : ∀ argument ∈ applied.arguments,
    isName argument.1 = true ∧ WholeValue argument.2

/-- A deprecated member has a reason that is not empty. -/
def FitsDeprecation (isDeprecated : Bool) (reason : Option String) : Prop :=
  isDeprecated = true → ∃ text, reason = some text ∧ text ≠ "" ∧ Text.hasHalves text = false

/-- Values of enums with names of the language that are not reserved. -/
structure FitsEnumValue (value : EnumValue) : Prop where
  named : isName value.name = true
  free : value.name ∉ Parser.reservedValues
  described : IsWhole value.description
  deprecation : FitsDeprecation value.isDeprecated value.deprecationReason

namespace Meaning

variable (meaning : Meaning) (room : Nat)

/-- A text is the type that it means, written without comments. -/
structure FitsType (type : String) : Prop where
  written : Scans type.toList (meaning.reference type).tokens []
  room : (meaning.reference type).Fits room

/-- A text is the constant that it means, written without comments. -/
structure FitsConstant (value : String) : Prop where
  written : Scans value.toList (meaning.constant value).tokens []
  room : (meaning.constant value).Fits room

/-- Fields with names of the language and types that do not rule null out themselves. -/
structure FitsField (field : Field) : Prop where
  named : isName field.name = true
  typed : meaning.FitsType room field.type
  nullable : (meaning.reference field.type).isNonNull = false
  described : IsWhole field.description
  directives : ∀ applied ∈ field.directives, FitsDirective applied
  deprecation : FitsDeprecation field.isDeprecated field.deprecationReason

/-- Arguments with names of the language and types that do not rule null out themselves. -/
structure FitsArgument (argument : Argument) : Prop where
  named : isName argument.name = true
  typed : meaning.FitsType room argument.type
  nullable : (meaning.reference argument.type).isNonNull = false
  described : IsWhole argument.description
  default : ∀ value ∈ argument.defaultValue, meaning.FitsConstant room value

/-- Operations with names of the language. -/
structure FitsOperation (operation : Operation) : Prop where
  named : isName operation.fieldName = true
  typed : meaning.FitsType room operation.returnType
  described : IsWhole operation.description
  arguments : ∀ argument ∈ operation.arguments, meaning.FitsArgument room argument
  directives : ∀ applied ∈ operation.directives, FitsDirective applied

/-- Types with names of the language; the directives of an enum are not looked at. -/
structure FitsNamedType (type : NamedType) : Prop where
  named : isName type.name = true
  described : IsWhole type.description
  directives : type.body.kind ≠ .enum → ∀ applied ∈ type.directives, FitsDirective applied
  fields : ∀ field ∈ type.body.fields, meaning.FitsField room field
  values : ∀ value ∈ type.body.values, FitsEnumValue value
  members : ∀ member ∈ type.body.members, isName member = true

/-- Parts of a document that have names, types and constants of the language. -/
structure FitsParts (types : List NamedType) (operations : List Operation)
    (text : Option String) : Prop where
  types : ∀ type ∈ types, meaning.FitsNamedType room type
  operations : ∀ operation ∈ operations, meaning.FitsOperation room operation
  described : IsWhole text

/-- Schemas that have names, types and constants of the language. -/
def FitsSchema (schema : Schema) (text : Option String) : Prop :=
  meaning.FitsParts room schema.types schema.operations (shownDescription schema text)

end Meaning

end AppSync.Sdl
