import AppSync.Document.KeyText
import AppSync.Document.Reading
import AppSync.Text.Identifier

/-! Directives applied to types, fields and operations. -/

namespace AppSync

/-- A literal argument of a directive. -/
inductive DirectiveValue where
  | text (value : String)
  | flag (value : Bool)
  | integer (value : Int)
  | decimal (value : Binary64)
  | texts (values : List String)
deriving DecidableEq, Inhabited

/-- A literal can be written unless it is an infinite or undefined number. -/
def DirectiveValue.isBounded : DirectiveValue → Bool
  | .decimal value => value.isFinite
  | _ => true

/-- A directive: an identifier, and arguments in order with literals that can be written. -/
structure Directive where
  name : String
  arguments : List (String × DirectiveValue)
  named : Text.isIdentifier name = true
  bounded : ∀ argument ∈ arguments, argument.2.isBounded = true
deriving DecidableEq

namespace DirectiveValue

/-- The document form of a literal. -/
def toJson : DirectiveValue → Json
  | text value => .text value
  | flag value => .bool value
  | integer value => .int value
  | decimal value => .float value
  | texts values => .array (values.map Json.text)

/-- The problems of a value that fits no kind of literal, one kind after the other. -/
def mismatch (listProblems : List Problem) : List Problem :=
  [⟨["str"], .notText⟩, ⟨["bool"], .notBoolean⟩, ⟨["int"], .notInteger⟩,
    ⟨["float"], .notNumber⟩] ++
    listProblems.map fun problem =>
      { problem with path := "list[str]" :: problem.path }

/-- The problems of a text that is no Unicode, one kind of literal after the other. -/
def undecodable : List Problem :=
  [⟨["str"], .undecodableText⟩, ⟨["bool"], .obscureBoolean⟩, ⟨["int"], .obscureInteger⟩,
    ⟨["float"], .obscureNumber⟩, ⟨["list[str]"], .notList⟩]

/-- A value keeps its own kind; what is no literal has the problems of every kind. -/
def read (value : Value) : Reading DirectiveValue :=
  match value with
  | .scalar (.text word) => .ok (text word)
  | .scalar (.bool truth) => .ok (flag truth)
  | .scalar (.int number) => .ok (integer number)
  | .scalar (.float number) => .ok (decimal number)
  | .scalar (.bytes bytes) =>
    match Reading.text (.scalar (.bytes bytes)) with
    | .ok word => .ok (text word)
    | .error _ => .error undecodable
  | other =>
    match Reading.list Reading.text other with
    | .ok words => .ok (texts words)
    | .error problems => .error (mismatch problems)

end DirectiveValue

namespace Directive

/-- Reads the arguments of a directive in order; a key has to be a text. -/
def readArguments : List (Scalar × Value) → Reading (List (String × DirectiveValue))
  | [] => .ok []
  | (key, value) :: rest =>
    let name := Reading.below key.step (Reading.below "[key]" (Reading.text (.scalar key)))
    let literal := Reading.below key.step (DirectiveValue.read value)
    (name.map fun name literal others => (name, literal) :: others)
      |> Reading.give literal
      |> Reading.give (readArguments rest)

/-- Reads a mapping of arguments; keys that are the same text share a place, the last value. -/
def readMapping (value : Value) : Reading (List (String × DirectiveValue)) :=
  match value.unfolded with
  | .mapping entries => (readArguments entries).map Json.collectMembers
  | _ => Reading.fail .notMapping

/-- A name without one leading sign. -/
def withoutSign (name : String) : String :=
  match name.toList with
  | '@' :: rest => String.ofList rest
  | _ => name

/-- Reads a name that may carry its sign. -/
def readName (value : Value) : Reading { name : String // Text.isIdentifier name = true } :=
  Reading.obeying (Text.isIdentifier · = true) .directiveName ((Reading.text value).map withoutSign)

/-- The refusal of arguments of which some number is not finite. -/
def unbounded (arguments : List (String × DirectiveValue)) : Refusal :=
  .unboundedArgument (((arguments.find? fun argument => !argument.2.isBounded).map (·.1)).getD "")

/-- Reads arguments whose numbers are all finite. -/
def readBounded (value : Value) : Reading { arguments : List (String × DirectiveValue) //
    ∀ argument ∈ arguments, argument.2.isBounded = true } :=
  Reading.obeying (fun arguments => ∀ argument ∈ arguments, argument.2.isBounded = true) unbounded
    (readMapping value)

/-- Reads a directive; without arguments it has none. -/
def read (value : Value) : Reading Directive := do
  let entries ← Reading.record "AppliedDirective" value
  (Reading.required "name" readName entries).map
      (fun name arguments => Directive.mk name.1 arguments.1 name.2 arguments.2)
    |> Reading.give (Reading.optional "arguments" readBounded ⟨[], by simp⟩ entries)

/-- The document form of a directive. -/
def toJson (directive : Directive) : Json :=
  .object [
    ("name", .text directive.name),
    ("arguments", .object (directive.arguments.map fun argument =>
      (argument.1, argument.2.toJson)))]

end Directive

end AppSync
