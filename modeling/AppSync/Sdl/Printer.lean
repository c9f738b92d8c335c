import AppSync.Schema.Basic
import AppSync.Sdl.Literal
import AppSync.Text.Blank

/-! The schema document: blocks in a fixed order, members sorted by name. -/

namespace AppSync.Sdl

/-- The indentation of members. -/
def memberIndent : String := "  "

/-- The indentation of arguments that stand on lines of their own. -/
def argumentIndent : String := "    "

/-- Items in order of their names' code points, equal names in the order given. -/
def sortedBy {α : Type} (name : α → String) (items : List α) : List α :=
  items.mergeSort fun a b => Text.codesInOrder (name a) (name b)

/-- The block that names the root types. -/
def schemaBlock (roots : List Root) (text : Option String) : List String :=
  description text "" ++
    "schema \x7b" :: (roots.map fun root => memberIndent ++ root.keyword ++ ": " ++ root.name) ++
      ["\x7d"]

/-- A field with its description. -/
def fieldLines (field : Field) : List String :=
  description field.description memberIndent ++
    [memberIndent ++ field.name ++ ": " ++ typeText field.type field.isNullable ++
      directives field.directives ++ deprecationIf field.isDeprecated field.deprecationReason]

/-- A type made of fields; without any it has no braces. -/
def fieldedBlock (keyword : String) (type : NamedType) (fields : List Field) : List String :=
  let header := keyword ++ " " ++ type.name ++ directives type.directives
  if fields.isEmpty then [header]
  else (header ++ " \x7b") :: (sortedBy Field.name fields).flatMap fieldLines ++ ["\x7d"]

/-- A value of an enum with its description. -/
def enumValueLines (value : EnumValue) : List String :=
  description value.description memberIndent ++
    [memberIndent ++ value.name ++ deprecationIf value.isDeprecated value.deprecationReason]

/-- An enum; the service accepts no directives on it, so they are left out. -/
def enumBlock (type : NamedType) (values : List EnumValue) : List String :=
  let header := "enum " ++ type.name
  if values.isEmpty then [header]
  else (header ++ " \x7b") :: (sortedBy EnumValue.name values).flatMap enumValueLines ++ ["\x7d"]

/-- A union with its members in order of declaration. -/
def unionBlock (type : NamedType) (members : List String) : List String :=
  let header := "union " ++ type.name ++ directives type.directives
  if members.isEmpty then [header] else [header ++ " = " ++ String.intercalate " | " members]

/-- A named type with its description. -/
def typeBlock (type : NamedType) : List String :=
  description type.description "" ++
    match type.body with
    | .object fields => fieldedBlock "type" type fields
    | .input fields => fieldedBlock "input" type fields
    | .interface fields => fieldedBlock "interface" type fields
    | .enum values => enumBlock type values
    | .union members => unionBlock type members

/-- An argument with its default. -/
def argumentText (argument : Argument) : String :=
  argument.name ++ ": " ++ typeText argument.type argument.isNullable ++
    match argument.defaultValue with
    | none => ""
    | some value => " = " ++ value

/-- Arguments on lines of their own, each but the last before a comma. -/
def argumentLines : List Argument → List String
  | [] => []
  | [last] => description last.description argumentIndent ++ [argumentIndent ++ argumentText last]
  | argument :: rest =>
    description argument.description argumentIndent ++
      [argumentIndent ++ argumentText argument ++ ","] ++ argumentLines rest

/-- Whether a description is there and not empty. -/
def isDescribed (text : Option String) : Bool :=
  (text.filter (· ≠ "")).isSome

/-- An operation as a field of its root; described arguments stand on lines of their own. -/
def operationLines (operation : Operation) : List String :=
  let result := ": " ++ operation.returnType ++ directives operation.directives
  let start := memberIndent ++ operation.fieldName
  description operation.description memberIndent ++
    if operation.arguments.isEmpty then [start ++ result]
    else if operation.arguments.any fun argument => isDescribed argument.description then
      (start ++ "(") :: argumentLines operation.arguments ++ [memberIndent ++ ")" ++ result]
    else
      [start ++ "(" ++ String.intercalate ", " (operation.arguments.map argumentText) ++ ")" ++
        result]

/-- A root type with its operations. -/
def rootBlock (operations : List Operation) (root : Root) : List String :=
  let own := operations.filter fun operation => operation.root = root
  ("type " ++ root.name ++ " \x7b") ::
    (sortedBy Operation.fieldName own).flatMap operationLines ++ ["\x7d"]

/-- Every block of a document: the schema block, the types by name, the roots in their order. -/
def blocks (types : List NamedType) (operations : List Operation) (text : Option String) :
    List (List String) :=
  let roots := Schema.presentRoots operations
  (if roots.isEmpty then [] else [schemaBlock roots text]) ++
    (sortedBy NamedType.name types).map typeBlock ++ roots.map (rootBlock operations)

/-- The document of types and operations, its blocks separated by an empty line. -/
def render (types : List NamedType) (operations : List Operation) (text : Option String) : String :=
  Text.trim (String.intercalate "\n\n"
    ((blocks types operations text).map (String.intercalate "\n")))

/-- The document of a schema; a description that is given replaces the schema's own. -/
def renderSchema (schema : Schema) (text : Option String) : String :=
  render schema.types schema.operations
    (match text.filter (· ≠ "") with
    | some text => some text
    | none => schema.description)

/-- The directives of a type that the document shows; those of an enum are left out. -/
def shownDirectives (type : NamedType) : List Directive :=
  match type.body with
  | .enum _ => []
  | body => type.directives ++ body.fields.flatMap Field.directives

/-- Whether an integer in a directive has too many digits to be written. -/
def hasOverlong (applied : Directive) : Bool :=
  applied.arguments.any fun argument =>
    match argument.2 with
    | .integer value => Number.isOverlong value
    | _ => false

/-- Whether the document of a schema can be written: no integer in it has too many digits. -/
def isWritable (schema : Schema) : Bool :=
  !(schema.types.flatMap shownDirectives ++ schema.operations.flatMap Operation.directives).any
    hasOverlong

/-- The document of a schema, unless it cannot be written. -/
def writtenSchema? (schema : Schema) (text : Option String) : Option String :=
  if isWritable schema then some (renderSchema schema text) else none

/-- The enums whose directives the document leaves out, with the number of these. -/
def droppedDirectives (types : List NamedType) : List (String × Nat) :=
  (sortedBy NamedType.name types).filterMap fun type =>
    match type.body with
    | .enum _ =>
      if type.directives.isEmpty then none else some (type.name, type.directives.length)
    | _ => none

end AppSync.Sdl
