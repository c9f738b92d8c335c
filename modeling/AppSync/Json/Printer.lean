import AppSync.Json.Basic
import AppSync.Json.Quoted
import AppSync.Number.Shortest

/-! JSON texts: indented, one member a line, or compact without any blank. -/

namespace AppSync.Json

/-- A line break and the indentation of a nesting depth. -/
def newline (depth : Nat) : String :=
  "\n" ++ String.ofList (List.replicate (2 * depth) ' ')

/-- The indented text of a value that stands at a nesting depth; empty collections stay closed. -/
def indented (depth : Nat) : Json → String
  | .null => "null"
  | .bool value => if value then "true" else "false"
  | .int value => toString value
  | .float value => value.text
  | .text value => quote value
  | .array [] => "[]"
  | .array (first :: others) =>
    "[" ++ newline (depth + 1) ++ indented (depth + 1) first ++ indentedItems (depth + 1) others ++
      newline depth ++ "]"
  | .object [] => "\x7b\x7d"
  | .object ((name, first) :: others) =>
    "\x7b" ++ newline (depth + 1) ++ quote name ++ ": " ++ indented (depth + 1) first ++
      indentedMembers (depth + 1) others ++ newline depth ++ "\x7d"
where
  /-- Further items of an array, each after a comma and on its own line. -/
  indentedItems (depth : Nat) : List Json → String
    | [] => ""
    | item :: rest => "," ++ newline depth ++ indented depth item ++ indentedItems depth rest
  /-- Further members of an object, each after a comma and on its own line. -/
  indentedMembers (depth : Nat) : List (String × Json) → String
    | [] => ""
    | (name, value) :: rest =>
      "," ++ newline depth ++ quote name ++ ": " ++ indented depth value ++
        indentedMembers depth rest

/-- The compact text of a value, its strings quoted by `literal`. -/
def compact (literal : String → String) : Json → String
  | .null => "null"
  | .bool value => if value then "true" else "false"
  | .int value => toString value
  | .float value => value.text
  | .text value => literal value
  | .array [] => "[]"
  | .array (first :: others) => "[" ++ compact literal first ++ compactItems literal others ++ "]"
  | .object [] => "\x7b\x7d"
  | .object ((name, first) :: others) =>
    "\x7b" ++ literal name ++ ":" ++ compact literal first ++ compactMembers literal others ++ "\x7d"
where
  /-- Further items of an array, each after a comma. -/
  compactItems (literal : String → String) : List Json → String
    | [] => ""
    | item :: rest => "," ++ compact literal item ++ compactItems literal rest
  /-- Further members of an object, each after a comma. -/
  compactMembers (literal : String → String) : List (String × Json) → String
    | [] => ""
    | (name, value) :: rest =>
      "," ++ literal name ++ ":" ++ compact literal value ++ compactMembers literal rest

end AppSync.Json
