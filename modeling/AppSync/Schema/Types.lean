import AppSync.Schema.Directive

/-! Named types of a schema: objects, inputs, interfaces, enums and unions. -/

namespace AppSync

/-- A field of an object, input or interface; its type is written without the non-null mark. -/
structure Field where
  name : String
  type : String
  description : Option String
  isNullable : Bool
  isDeprecated : Bool
  deprecationReason : Option String
  directives : List Directive
deriving DecidableEq

/-- A value of an enum. -/
structure EnumValue where
  name : String
  description : Option String
  isDeprecated : Bool
  deprecationReason : Option String
deriving DecidableEq

/-- The kinds of named types. -/
inductive TypeKind where
  | object
  | input
  | interface
  | enum
  | union
deriving DecidableEq

/-- The word for a kind. -/
def TypeKind.word : TypeKind → String
  | .object => "object"
  | .input => "input"
  | .interface => "interface"
  | .enum => "enum"
  | .union => "union"

/-- Every kind under its word. -/
def TypeKind.choices : List (String × TypeKind) :=
  [TypeKind.object, .input, .interface, .enum, .union].map fun kind => (kind.word, kind)

/-- What a type consists of: fields, values or members, as its kind has it. -/
inductive TypeBody where
  | object (fields : List Field)
  | input (fields : List Field)
  | interface (fields : List Field)
  | enum (values : List EnumValue)
  | union (members : List String)
deriving DecidableEq

/-- A named type. -/
structure NamedType where
  name : String
  description : Option String
  body : TypeBody
  directives : List Directive
deriving DecidableEq

namespace TypeBody

/-- The kind of a type with a given body. -/
def kind : TypeBody → TypeKind
  | object _ => .object
  | input _ => .input
  | interface _ => .interface
  | enum _ => .enum
  | union _ => .union

/-- The fields of a body, of which enums and unions have none. -/
def fields : TypeBody → List Field
  | object fields => fields
  | input fields => fields
  | interface fields => fields
  | enum _ => []
  | union _ => []

/-- The values of an enum. -/
def values : TypeBody → List EnumValue
  | enum values => values
  | _ => []

/-- The members of a union. -/
def members : TypeBody → List String
  | union members => members
  | _ => []

end TypeBody

/-- Reads null or a text at a key that may be absent. -/
def Reading.optionalText (key : String) (entries : Entries) : Reading (Option String) :=
  Reading.optional key (Reading.nullable Reading.text) none entries

namespace Field

/-- Reads a field; it is nullable unless said otherwise. -/
def read (value : Value) : Reading Field := do
  let entries ← Reading.record "FieldSpec" value
  (Reading.required "name" Reading.text entries).map Field.mk
    |> Reading.give (Reading.required "type" Reading.text entries)
    |> Reading.give (Reading.optionalText "description" entries)
    |> Reading.give (Reading.optional "is_nullable" Reading.boolean true entries)
    |> Reading.give (Reading.optional "is_deprecated" Reading.boolean false entries)
    |> Reading.give (Reading.optionalText "deprecation_reason" entries)
    |> Reading.give (Reading.optional "directives" (Reading.list Directive.read) [] entries)

/-- The document form of a field. -/
def toJson (field : Field) : Json :=
  .object [
    ("name", .text field.name),
    ("type", .text field.type),
    ("description", Json.ofText? field.description),
    ("is_nullable", .bool field.isNullable),
    ("is_deprecated", .bool field.isDeprecated),
    ("deprecation_reason", Json.ofText? field.deprecationReason),
    ("directives", .array (field.directives.map Directive.toJson))]

end Field

namespace EnumValue

/-- Reads a value of an enum. -/
def read (value : Value) : Reading EnumValue := do
  let entries ← Reading.record "EnumValueSpec" value
  (Reading.required "name" Reading.text entries).map EnumValue.mk
    |> Reading.give (Reading.optionalText "description" entries)
    |> Reading.give (Reading.optional "is_deprecated" Reading.boolean false entries)
    |> Reading.give (Reading.optionalText "deprecation_reason" entries)

/-- The document form of a value of an enum. -/
def toJson (value : EnumValue) : Json :=
  .object [
    ("name", .text value.name),
    ("description", Json.ofText? value.description),
    ("is_deprecated", .bool value.isDeprecated),
    ("deprecation_reason", Json.ofText? value.deprecationReason)]

end EnumValue

/-- A type as it is declared, before its members are matched with its kind. -/
structure TypeDeclaration where
  name : String
  kind : TypeKind
  description : Option String
  fields : List Field
  values : List EnumValue
  members : List String
  directives : List Directive

namespace TypeDeclaration

/-- The member lists that are not empty and do not belong to the kind. -/
def foreign (declared : TypeDeclaration) : List String :=
  let fields := if declared.fields.isEmpty then [] else ["fields"]
  let values := if declared.values.isEmpty then [] else ["enum_values"]
  let members := if declared.members.isEmpty then [] else ["union_members"]
  match declared.kind with
  | .object | .input | .interface => values ++ members
  | .enum => fields ++ members
  | .union => fields ++ values

/-- The body that the kind selects. -/
def body (declared : TypeDeclaration) : TypeBody :=
  match declared.kind with
  | .object => .object declared.fields
  | .input => .input declared.fields
  | .interface => .interface declared.fields
  | .enum => .enum declared.values
  | .union => .union declared.members

/-- The named type that a declaration makes, unless it declares foreign members. -/
def toType (declared : TypeDeclaration) : Reading NamedType :=
  if declared.foreign = [] then
    .ok ⟨declared.name, declared.description, declared.body, declared.directives⟩
  else
    Reading.fail (.refused (.foreignMembers declared.kind.word declared.name declared.foreign))

/-- Reads a declaration; a kind may be written in any case. -/
def read (value : Value) : Reading TypeDeclaration := do
  let entries ← Reading.record "TypeSpec" value
  (Reading.required "name" Reading.text entries).map TypeDeclaration.mk
    |> Reading.give (Reading.optional "kind"
        (Reading.choice TypeKind.choices Text.lowerCase) .object entries)
    |> Reading.give (Reading.optionalText "description" entries)
    |> Reading.give (Reading.optional "fields" (Reading.list Field.read) [] entries)
    |> Reading.give (Reading.optional "enum_values" (Reading.list EnumValue.read) [] entries)
    |> Reading.give (Reading.optional "union_members" (Reading.list Reading.text) [] entries)
    |> Reading.give (Reading.optional "directives" (Reading.list Directive.read) [] entries)

end TypeDeclaration

namespace NamedType

/-- Reads a named type. -/
def read (value : Value) : Reading NamedType := do
  (← TypeDeclaration.read value).toType

/-- The document form of a named type. -/
def toJson (type : NamedType) : Json :=
  .object [
    ("name", .text type.name),
    ("kind", .text type.body.kind.word),
    ("description", Json.ofText? type.description),
    ("fields", .array (type.body.fields.map Field.toJson)),
    ("enum_values", .array (type.body.values.map EnumValue.toJson)),
    ("union_members", .array (type.body.members.map Json.text)),
    ("directives", .array (type.directives.map Directive.toJson))]

end NamedType

end AppSync
