import AppSync.Calendar.Timestamp
import AppSync.Diagnostic
import AppSync.Fault
import AppSync.Json.Printer
import AppSync.Schema.Basic

/-! The resolver manifest: which data source or functions serve each operation. -/

namespace AppSync

/-- An operation that names another function for a data source than the first one did. -/
structure Conflict where
  source : String
  kept : String
  operation : String
  named : String
deriving DecidableEq, Repr

namespace Conflict

/-- The sentence that states a conflict. -/
def message (conflict : Conflict) : String :=
  s!"Data source '{conflict.source}' is backed by '{conflict.kept}' " ++
    s!"but {conflict.operation} names '{conflict.named}'"

/-- The warning for a conflict that is let pass. -/
def diagnostic (conflict : Conflict) : Diagnostic :=
  ⟨.dataSourceConflict, .warning, conflict.message, some conflict.operation, some conflict.source⟩

/-- The fault of a conflict that is not let pass. -/
def fault (conflict : Conflict) : Fault :=
  Fault.generation conflict.message (some conflict.operation)

end Conflict

namespace Manifest

/-- Collects data sources in order of first use; a strict run ends at the first conflict. -/
def collectFrom (strict : Bool) (sources : List DataSource) (conflicts : List Conflict) :
    List Operation → Except Conflict (List DataSource × List Conflict)
  | [] => .ok (sources, conflicts)
  | operation :: rest =>
    match operation.resolver with
    | .pipeline .. => collectFrom strict sources conflicts rest
    | .unit name _ =>
      match sources.find? fun source => source.name = name with
      | none => collectFrom strict (sources ++ [⟨name, operation.backing⟩]) conflicts rest
      | some source =>
        if source.backing = operation.backing then collectFrom strict sources conflicts rest
        else
          let conflict : Conflict :=
            ⟨name, source.backing, operation.qualifiedName, operation.backing⟩
          if strict then .error conflict
          else collectFrom strict sources (conflicts ++ [conflict]) rest

/-- The data sources of unit resolvers, and the operations that disagree on one. -/
def collect (strict : Bool) (operations : List Operation) :
    Except Conflict (List DataSource × List Conflict) :=
  collectFrom strict [] [] operations

/-- A member that is left out where there is no text or an empty one. -/
def optionalText (name : String) (value : Option String) : List (String × Json) :=
  match value.filter (· ≠ "") with
  | some text => [(name, .text text)]
  | none => []

/-- A member that is left out where there is no number. -/
def optionalNumber (name : String) (value : Option Int) : List (String × Json) :=
  match value with
  | some number => [(name, .int number)]
  | none => []

/-- The members of a unit resolver's entry. -/
def unitMembers (operation : Operation) (source : String) : List (String × Json) :=
  let deployment := operation.deployment
  [("dataSource", .text source)] ++
    optionalText "lambdaFunctionName" deployment.functionName ++
    [("lambdaFunctionLogicalId", .text operation.backing), ("runtime", .text deployment.runtime)] ++
    optionalText "requestMapping" deployment.requestMapping ++
    optionalText "responseMapping" deployment.responseMapping ++
    optionalText "resourceName" deployment.resourceName ++
    optionalNumber "memorySize" (deployment.memorySize.map (·.1)) ++
    optionalNumber "timeout" (deployment.timeout.map (·.1)) ++
    (if deployment.policies.isEmpty then []
      else [("policies", .array (deployment.policies.map Json.text))]) ++
    optionalText "role" deployment.role

/-- The members of a pipeline resolver's entry. -/
def pipelineMembers (operation : Operation) (functions : List String) : List (String × Json) :=
  let deployment := operation.deployment
  [("functions", .array (functions.map Json.text)), ("runtime", .text deployment.runtime)] ++
    optionalText "requestMapping" deployment.requestMapping ++
    optionalText "responseMapping" deployment.responseMapping

/-- The entry of an operation's resolver. -/
def resolverEntry (operation : Operation) : Json :=
  .object ([
    ("typeName", .text operation.root.name),
    ("fieldName", .text operation.fieldName),
    ("kind", .text operation.resolver.kind.word)] ++
    (match operation.resolver with
    | .unit source _ => unitMembers operation source
    | .pipeline functions .. => pipelineMembers operation functions) ++
    optionalText "description" operation.description)

/-- A reference to the address of a function that deployment creates. -/
def functionReference (identity : String) : String :=
  "$\x7b" ++ identity ++ ".Arn\x7d"

/-- The entry of a data source. -/
def dataSourceEntry (source : DataSource) : Json :=
  .object [
    ("name", .text source.name),
    ("type", .text "AWS_LAMBDA"),
    ("serviceRoleArn", .text (functionReference "LambdaDataSourceRole")),
    ("lambdaConfig", .object [("functionArn", .text (functionReference source.backing))])]

/-- The document that lists resolvers and data sources. -/
def documentOf (operations : List Operation) (sources : List DataSource) (timestamp : String) :
    Json :=
  .object [
    ("$schema", .text "https://lambda-graphql.dev/schemas/resolvers.json"),
    ("version", .text "1.0.0"),
    ("generatedAt", .text timestamp),
    ("resolvers", .array (operations.map resolverEntry)),
    ("dataSources", .array (sources.map dataSourceEntry)),
    ("functions", .array [])]

end Manifest

/-- A manifest document, its data sources and the conflicts that were let pass. -/
structure Manifest where
  document : Json
  sources : List DataSource
  conflicts : List Conflict

namespace Manifest

/-- Why no manifest is made. -/
inductive Failure where
  | conflict (conflict : Conflict)
  | outOfCalendar
deriving DecidableEq, Repr

/-- Builds the manifest of operations, generated at a moment. -/
def build (strict : Bool) (operations : List Operation) (moment : Moment) :
    Except Failure Manifest :=
  match collect strict operations with
  | .error conflict => .error (.conflict conflict)
  | .ok (sources, conflicts) =>
    match Calendar.timestamp? moment with
    | none => .error .outOfCalendar
    | some timestamp => .ok ⟨documentOf operations sources timestamp, sources, conflicts⟩

/-- The text of a manifest. -/
def text (manifest : Manifest) : String :=
  Json.indented 0 manifest.document

/-- The warnings about conflicts. -/
def diagnostics (manifest : Manifest) : List Diagnostic :=
  manifest.conflicts.map Conflict.diagnostic

end Manifest

end AppSync
