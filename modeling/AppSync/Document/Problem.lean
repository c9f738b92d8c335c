import AppSync.Document.Value
import AppSync.Text.Half

/-! What can be wrong with a value that is read as a record, and where. -/

namespace AppSync

/-- Why a well-formed value is refused by a rule of the record that it belongs to. -/
inductive Refusal where
  /-- A directive is named by no identifier. -/
  | directiveName (name : String)
  /-- A directive argument is infinite or undefined. -/
  | unboundedArgument (name : String)
  /-- A type of one kind declares members of other kinds. -/
  | foreignMembers (kind name : String) (members : List String)
  /-- A unit resolver names no data source. -/
  | unitWithoutSource (field : String)
  /-- A unit resolver lists functions. -/
  | unitWithFunctions (field : String)
  /-- A pipeline resolver lists no function. -/
  | pipelineWithoutFunctions (field : String)
  /-- A pipeline resolver names a data source. -/
  | pipelineWithSource (field : String)
  /-- Two types share a name. -/
  | duplicateType (name : String)
  /-- A type is named like a root operation type. -/
  | reservedType (name : String)
  /-- Two operations share root and field. -/
  | duplicateOperation (name : String)
  /-- A file name is not a single ordinary path component. -/
  | notPlainFileName (name : String)
deriving DecidableEq, Repr

/-- The sentence that states a refusal. -/
def Refusal.message : Refusal → String
  | .directiveName name => s!"Directive name '{name}' is not a valid identifier"
  | .unboundedArgument name => s!"Directive argument '{name}' must be a finite number"
  | .foreignMembers kind name members =>
    s!"{kind} type '{name}' cannot declare " ++ String.intercalate ", " members
  | .unitWithoutSource field => s!"Unit resolver '{field}' requires a data_source"
  | .unitWithFunctions field => s!"Unit resolver '{field}' cannot declare pipeline functions"
  | .pipelineWithoutFunctions field =>
    s!"Pipeline resolver '{field}' requires at least one function"
  | .pipelineWithSource field => s!"Pipeline resolver '{field}' cannot declare a data_source"
  | .duplicateType name => s!"Duplicate type name '{name}'"
  | .reservedType name => s!"Type name '{name}' is reserved for a root type"
  | .duplicateOperation name => s!"Duplicate operation '{name}'"
  | .notPlainFileName name => s!"must be a plain file name, got '{name}'"

/-- Why a value cannot be read. -/
inductive Cause where
  | missing
  | notText
  | undecodableText
  | notBoolean
  | obscureBoolean
  | notInteger
  | obscureInteger
  | fractionalInteger
  | oversizedInteger
  | notFinite
  | belowLeast (least : Int)
  | aboveGreatest (greatest : Int)
  | notNumber
  | obscureNumber
  | notList
  | notTuple
  | notMapping
  | notRecord (name : String)
  | notChoice (choices : List String)
  | unknownKey
  | tooDeep
  | cyclic
  | refused (refusal : Refusal)
deriving DecidableEq, Repr

/-- Quoted choices, the last one after `or`. -/
def choiceText : List String → String
  | [] => ""
  | [last] => s!"'{last}'"
  | [one, last] => s!"'{one}' or '{last}'"
  | one :: rest => s!"'{one}', " ++ choiceText rest

/-- The sentence that states a cause. -/
def Cause.message : Cause → String
  | .missing => "Field required"
  | .notText => "Input should be a valid string"
  | .undecodableText => "Input should be a valid string, unable to parse raw data as a unicode string"
  | .notBoolean => "Input should be a valid boolean"
  | .obscureBoolean => "Input should be a valid boolean, unable to interpret input"
  | .notInteger => "Input should be a valid integer"
  | .obscureInteger => "Input should be a valid integer, unable to parse string as an integer"
  | .fractionalInteger => "Input should be a valid integer, got a number with a fractional part"
  | .oversizedInteger => "Unable to parse input string as an integer, exceeded maximum size"
  | .notFinite => "Input should be a finite number"
  | .belowLeast least => s!"Input should be greater than or equal to {least}"
  | .aboveGreatest greatest => s!"Input should be less than or equal to {greatest}"
  | .notNumber => "Input should be a valid number"
  | .obscureNumber => "Input should be a valid number, unable to parse string as a number"
  | .notList => "Input should be a valid list"
  | .notTuple => "Input should be a valid tuple"
  | .notMapping => "Input should be a valid dictionary"
  | .notRecord name => s!"Input should be a valid dictionary or instance of {name}"
  | .notChoice choices => "Input should be " ++ choiceText choices
  | .unknownKey => "Extra inputs are not permitted"
  | .tooDeep => "Recursion error - maximum validation depth exceeded"
  | .cyclic => "Recursion error - cyclic reference detected"
  | .refused refusal => "Value error, " ++ refusal.message

/-- A cause and the steps that lead to the value concerned. -/
structure Problem where
  path : List String
  cause : Cause
deriving DecidableEq, Repr

namespace Problem

/-- The steps joined by points. -/
def location (problem : Problem) : String :=
  String.intercalate "." problem.path

/-- The location and the cause; a problem of the whole value shows its cause alone. -/
def message (problem : Problem) : String :=
  if problem.location = "" then problem.cause.message
  else problem.location ++ ": " ++ problem.cause.message

/-- All problems in one sentence. -/
def summary (problems : List Problem) : String :=
  String.intercalate "; " (problems.map message)

/-- The complaint about a refusal that cannot be stated because of halves of characters in it. -/
def unstated? (problem : Problem) : Option String :=
  match problem.cause with
  | .refused refusal => Text.unencodableHalves? refusal.message
  | _ => none

/-- The complaint about the first of several problems that cannot be stated. -/
def unstatable? (problems : List Problem) : Option String :=
  problems.findSome? unstated?

end Problem

end AppSync
