import AppSync.Json.Quoted
import AppSync.Schema.Directive
import AppSync.Text.Line

/-! Written forms of literals, directives and descriptions in a schema document. -/

namespace AppSync.Sdl

/-- A literal: numbers so that they read back, texts as quoted ASCII, lists in brackets. -/
def literal : DirectiveValue → String
  | .flag value => if value then "true" else "false"
  | .integer value => toString value
  | .decimal value => value.text
  | .texts values => "[" ++ String.intercalate ", " (values.map Json.quote) ++ "]"
  | .text value => Json.quote value

/-- A named argument of a directive. -/
def directiveArgument (argument : String × DirectiveValue) : String :=
  argument.1 ++ ": " ++ literal argument.2

/-- A directive after a blank; without arguments it has no parentheses. -/
def directive (applied : Directive) : String :=
  let name := " @" ++ applied.name
  if applied.arguments.isEmpty then name
  else name ++ "(" ++ String.intercalate ", " (applied.arguments.map directiveArgument) ++ ")"

/-- Directives in their order. -/
def directives (applied : List Directive) : String :=
  String.join (applied.map directive)

/-- The mark of a deprecated member; an empty reason counts as none. -/
def deprecation (reason : Option String) : String :=
  match reason.filter (· ≠ "") with
  | some reason => " @deprecated(reason: " ++ Json.quote reason ++ ")"
  | none => " @deprecated()"

/-- The mark of a member that may be deprecated. -/
def deprecationIf (isDeprecated : Bool) (reason : Option String) : String :=
  if isDeprecated then deprecation reason else ""

/-- A type name with the mark that rules null out. -/
def typeText (name : String) (isNullable : Bool) : String :=
  (if isNullable then name else name ++ "!")

/-- Three quotes in a row are written after a backslash. -/
def escapeQuotes : List Char → List Char
  | [] => []
  | '"' :: '"' :: '"' :: rest => '\\' :: '"' :: '"' :: '"' :: escapeQuotes rest
  | c :: rest => c :: escapeQuotes rest

/-- The delimiter of block strings. -/
def blockQuote : String := "\"\"\""

/-- A line behind an indentation; an empty line stays empty. -/
def indentLine (indent : String) (line : List Char) : String :=
  if line.isEmpty then "" else indent ++ String.ofList line

/-- The lines of a description as a block string; an empty one is not written. -/
def description (text : Option String) (indent : String) : List String :=
  match text.filter (· ≠ "") with
  | none => []
  | some text =>
    (indent ++ blockQuote) ::
      ((Text.lines (escapeQuotes text.toList)).map (indentLine indent) ++ [indent ++ blockQuote])

end AppSync.Sdl
