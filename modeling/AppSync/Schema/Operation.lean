import AppSync.Schema.Types

/-! Root operations: fields of the root types, each with the resolver that serves it. -/

namespace AppSync

/-- The root types. -/
inductive Root where
  | query
  | mutation
  | subscription
deriving DecidableEq

/-- The name of a root type. -/
def Root.name : Root → String
  | .query => "Query"
  | .mutation => "Mutation"
  | .subscription => "Subscription"

/-- The word for the operations of a root type. -/
def Root.keyword : Root → String
  | .query => "query"
  | .mutation => "mutation"
  | .subscription => "subscription"

/-- Every root type, in the order of a schema. -/
def Root.all : List Root := [.query, .mutation, .subscription]

/-- Whether a name is that of a root type. -/
def Root.isName (name : String) : Bool :=
  Root.all.any fun root => root.name = name

/-- An argument of an operation. -/
structure Argument where
  name : String
  type : String
  description : Option String
  isNullable : Bool
  defaultValue : Option String
deriving DecidableEq

/-- What deployment tooling needs to create the resolver and its function. -/
structure Deployment where
  functionName : Option String := none
  functionLogicalId : Option String := none
  runtime : String := "APPSYNC_JS"
  requestMapping : Option String := none
  responseMapping : Option String := none
  resourceName : Option String := none
  memorySize : Option (Within 128 10240) := none
  timeout : Option (Within 1 900) := none
  policies : List String := []
  role : Option String := none
deriving DecidableEq

/-- A resolver calls one named data source, or runs a chain of functions. -/
inductive Resolver where
  | unit (dataSource : String) (named : dataSource ≠ "")
  /-- An empty data source name counts as none; `blankSource` tells that it was written. -/
  | pipeline (functions : List String) (some : functions ≠ []) (blankSource : Bool)
deriving DecidableEq

/-- A field of a root type with its resolver. -/
structure Operation where
  root : Root
  fieldName : String
  returnType : String
  description : Option String
  arguments : List Argument
  resolver : Resolver
  directives : List Directive
  deployment : Deployment
deriving DecidableEq

namespace Argument

/-- Reads an argument; it is required unless said otherwise. -/
def read (value : Value) : Reading Argument := do
  let entries ← Reading.record "ArgumentSpec" value
  (Reading.required "name" Reading.text entries).map Argument.mk
    |> Reading.give (Reading.required "type" Reading.text entries)
    |> Reading.give (Reading.optionalText "description" entries)
    |> Reading.give (Reading.optional "is_nullable" Reading.boolean false entries)
    |> Reading.give (Reading.optionalText "default_value" entries)

/-- The document form of an argument. -/
def toJson (argument : Argument) : Json :=
  .object [
    ("name", .text argument.name),
    ("type", .text argument.type),
    ("description", Json.ofText? argument.description),
    ("is_nullable", .bool argument.isNullable),
    ("default_value", Json.ofText? argument.defaultValue)]

end Argument

namespace Deployment

/-- Reads deployment settings, all of which may be absent. -/
def read (value : Value) : Reading Deployment := do
  let entries ← Reading.record "DeploymentSpec" value
  (Reading.optionalText "lambda_function_name" entries).map Deployment.mk
    |> Reading.give (Reading.optionalText "lambda_function_logical_id" entries)
    |> Reading.give (Reading.optional "runtime" Reading.text "APPSYNC_JS" entries)
    |> Reading.give (Reading.optionalText "request_mapping" entries)
    |> Reading.give (Reading.optionalText "response_mapping" entries)
    |> Reading.give (Reading.optionalText "resource_name" entries)
    |> Reading.give (Reading.optional "memory_size"
        (Reading.nullable (Reading.integerBetween 128 10240)) none entries)
    |> Reading.give (Reading.optional "timeout"
        (Reading.nullable (Reading.integerBetween 1 900)) none entries)
    |> Reading.give (Reading.optional "policies" (Reading.list Reading.text) [] entries)
    |> Reading.give (Reading.optionalText "role" entries)

/-- The document form of deployment settings. -/
def toJson (deployment : Deployment) : Json :=
  .object [
    ("lambda_function_name", Json.ofText? deployment.functionName),
    ("lambda_function_logical_id", Json.ofText? deployment.functionLogicalId),
    ("runtime", .text deployment.runtime),
    ("request_mapping", Json.ofText? deployment.requestMapping),
    ("response_mapping", Json.ofText? deployment.responseMapping),
    ("resource_name", Json.ofText? deployment.resourceName),
    ("memory_size", Json.ofOption (fun size => .int size.1) deployment.memorySize),
    ("timeout", Json.ofOption (fun seconds => .int seconds.1) deployment.timeout),
    ("policies", .array (deployment.policies.map Json.text)),
    ("role", Json.ofText? deployment.role)]

/-- The logical id of a function that is known by its name. -/
def functionIdOf (name : String) : String := name ++ "Function"

/-- The logical id of the backing function: given, or derived from its name; empty texts are none. -/
def backing? (deployment : Deployment) : Option String :=
  match deployment.functionLogicalId.filter (· ≠ "") with
  | some id => some id
  | none => (deployment.functionName.filter (· ≠ "")).map functionIdOf

end Deployment

namespace Resolver

/-- The kinds of resolvers. -/
inductive Kind where
  | unit
  | pipeline
deriving DecidableEq

/-- The word for a kind. -/
def Kind.word : Kind → String
  | .unit => "UNIT"
  | .pipeline => "PIPELINE"

/-- Every kind under its word. -/
def Kind.choices : List (String × Kind) :=
  [Kind.unit, .pipeline].map fun kind => (kind.word, kind)

/-- The kind of a resolver. -/
def kind : Resolver → Kind
  | .unit .. => .unit
  | .pipeline .. => .pipeline

/-- The data source as it was written, which for a pipeline is absent or empty. -/
def dataSource? : Resolver → Option String
  | .unit source _ => some source
  | .pipeline _ _ blank => if blank then some "" else none

/-- The functions of a pipeline. -/
def functions : Resolver → List String
  | .unit .. => []
  | .pipeline functions .. => functions

/-- The resolver that a kind, a data source and functions make for a field. -/
def make (field : String) (kind : Kind) (source : Option String) (functions : List String) :
    Except Refusal Resolver :=
  match kind with
  | .unit =>
    let name := source.getD ""
    if named : name ≠ "" then
      if functions = [] then .ok (.unit name named) else .error (.unitWithFunctions field)
    else .error (.unitWithoutSource field)
  | .pipeline =>
    if given : functions ≠ [] then
      if source.getD "" = "" then .ok (.pipeline functions given source.isSome)
      else .error (.pipelineWithSource field)
    else .error (.pipelineWithoutFunctions field)

end Resolver

/-- An operation as it is declared, before its resolver is put together. -/
structure OperationDeclaration where
  root : Root
  fieldName : String
  returnType : String
  description : Option String
  arguments : List Argument
  kind : Resolver.Kind
  dataSource : Option String
  functions : List String
  directives : List Directive
  deployment : Deployment

namespace OperationDeclaration

/-- Reads a declaration; root and resolver kind may be written in any case. -/
def read (value : Value) : Reading OperationDeclaration := do
  let entries ← Reading.record "OperationSpec" value
  (Reading.required "root_type" (Reading.choice
      (Root.all.map fun root => (root.name, root)) Text.capitalized) entries).map
        OperationDeclaration.mk
    |> Reading.give (Reading.required "field_name" Reading.text entries)
    |> Reading.give (Reading.required "return_type" Reading.text entries)
    |> Reading.give (Reading.optionalText "description" entries)
    |> Reading.give (Reading.optional "arguments" (Reading.list Argument.read) [] entries)
    |> Reading.give (Reading.optional "resolver_kind"
        (Reading.choice Resolver.Kind.choices Text.upperCase) .unit entries)
    |> Reading.give (Reading.optionalText "data_source" entries)
    |> Reading.give (Reading.optional "functions" (Reading.list Reading.text) [] entries)
    |> Reading.give (Reading.optional "directives" (Reading.list Directive.read) [] entries)
    |> Reading.give (Reading.optional "deployment" Deployment.read {} entries)

/-- The operation that a declaration makes, unless data source and functions do not fit its kind. -/
def toOperation (declared : OperationDeclaration) : Reading Operation :=
  match Resolver.make declared.fieldName declared.kind declared.dataSource declared.functions with
  | .error refusal => Reading.fail (.refused refusal)
  | .ok resolver =>
    .ok ⟨declared.root, declared.fieldName, declared.returnType, declared.description,
      declared.arguments, resolver, declared.directives, declared.deployment⟩

end OperationDeclaration

namespace Operation

/-- Reads an operation. -/
def read (value : Value) : Reading Operation := do
  (← OperationDeclaration.read value).toOperation

/-- Root type and field, which together name an operation. -/
def key (operation : Operation) : Root × String :=
  (operation.root, operation.fieldName)

/-- Keys are compared part by part. -/
instance : LawfulBEq (Root × String) := inferInstance

/-- Root type and field joined by a point. -/
def qualifiedName (operation : Operation) : String :=
  operation.root.name ++ "." ++ operation.fieldName

/-- The logical id of the function behind an operation, if need be derived from its data source. -/
def backing (operation : Operation) : String :=
  operation.deployment.backing?.getD
    (Deployment.functionIdOf (operation.resolver.dataSource?.getD "None"))

/-- The document form of an operation. -/
def toJson (operation : Operation) : Json :=
  .object [
    ("root_type", .text operation.root.name),
    ("field_name", .text operation.fieldName),
    ("return_type", .text operation.returnType),
    ("description", Json.ofText? operation.description),
    ("arguments", .array (operation.arguments.map Argument.toJson)),
    ("resolver_kind", .text operation.resolver.kind.word),
    ("data_source", Json.ofText? operation.resolver.dataSource?),
    ("functions", .array (operation.resolver.functions.map Json.text)),
    ("directives", .array (operation.directives.map Directive.toJson)),
    ("deployment", operation.deployment.toJson)]

end Operation

/-- A data source and the function behind it. -/
structure DataSource where
  name : String
  backing : String
deriving DecidableEq

namespace DataSource

/-- Reads a data source. -/
def read (value : Value) : Reading DataSource := do
  let entries ← Reading.record "DataSourceSpec" value
  (Reading.required "name" Reading.text entries).map DataSource.mk
    |> Reading.give (Reading.required "backing_identity" Reading.text entries)

/-- The document form of a data source. -/
def toJson (source : DataSource) : Json :=
  .object [("name", .text source.name), ("backing_identity", .text source.backing)]

end DataSource

end AppSync
