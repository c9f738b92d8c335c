import AppSync.Schema.Operation

/-! What a schema document says: its definitions, as they are read from text. -/

namespace AppSync.Sdl

/-- A reference to a type. -/
inductive TypeReference where
  | named (name : String)
  | list (element : TypeReference)
  | nonNull (type : TypeReference)
deriving DecidableEq, Repr

/-- A literal or, outside constants, a variable. -/
inductive Literal where
  | variable (name : String)
  | integer (text : String)
  | decimal (text : String)
  | string (value : String)
  | block (value : String)
  | boolean (value : Bool)
  | null
  | enum (name : String)
  | list (items : List Literal)
  | object (fields : List (String × Literal))

/-- A directive as it is used. -/
structure Annotation where
  name : String
  arguments : List (String × Literal)

/-- An argument of a field or directive, or a field of an input. -/
structure InputDefinition where
  description : Option String
  name : String
  type : TypeReference
  default : Option Literal
  annotations : List Annotation

/-- A field of an object or interface. -/
structure FieldDefinition where
  description : Option String
  name : String
  arguments : List InputDefinition
  type : TypeReference
  annotations : List Annotation

/-- A value of an enum. -/
structure EnumValueDefinition where
  description : Option String
  name : String
  annotations : List Annotation

/-- A variable of an executable operation. -/
structure VariableDefinition where
  description : Option String
  name : String
  type : TypeReference
  default : Option Literal
  annotations : List Annotation

/-- What an executable operation selects. -/
inductive Selection where
  | field (responseName : Option String) (name : String) (arguments : List (String × Literal))
      (annotations : List Annotation) (selections : List Selection)
  | spread (fragment : String) (annotations : List Annotation)
  | inline (condition : Option String) (annotations : List Annotation)
      (selections : List Selection)

/-- What a definition of the type system says after its description. -/
inductive TypeContent where
  | schema (annotations : List Annotation) (roots : List (Root × String))
  | scalar (name : String) (annotations : List Annotation)
  | object (name : String) (interfaces : List String) (annotations : List Annotation)
      (fields : List FieldDefinition)
  | interface (name : String) (interfaces : List String) (annotations : List Annotation)
      (fields : List FieldDefinition)
  | union (name : String) (annotations : List Annotation) (members : List String)
  | enum (name : String) (annotations : List Annotation) (values : List EnumValueDefinition)
  | input (name : String) (annotations : List Annotation) (fields : List InputDefinition)
  | directive (name : String) (arguments : List InputDefinition) (annotations : List Annotation)
      (repeatable : Bool) (locations : List String)

/-- A definition of a document. -/
inductive Definition where
  | type (description : Option String) (content : TypeContent)
  | extension (content : TypeContent)
  | operation (description : Option String) (kind : Root) (name : Option String)
      (inputs : List VariableDefinition) (annotations : List Annotation)
      (selections : List Selection)
  | fragment (description : Option String) (name condition : String)
      (annotations : List Annotation) (selections : List Selection)

end AppSync.Sdl
