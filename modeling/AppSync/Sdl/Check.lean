import AppSync.Sdl.Parser
import AppSync.Text.Blank

/-! The check that a schema document can be read. -/

namespace AppSync.Sdl

/-- Drops parentheses that hold blanks only; `held` is an open one with the blanks behind it. -/
def dropEmptyFrom : Option (List Char) → List Char → List Char
  | none, [] => []
  | some held, [] => held
  | none, c :: rest => if c = '(' then dropEmptyFrom (some [c]) rest else c :: dropEmptyFrom none rest
  | some held, c :: rest =>
    if c = ')' then dropEmptyFrom none rest
    else if c = '(' then held ++ dropEmptyFrom (some [c]) rest
    else if Text.isBlank c then dropEmptyFrom (some (held ++ [c])) rest
    else held ++ c :: dropEmptyFrom none rest

/-- A text without empty argument lists, which the service admits and the grammar does not. -/
def dropEmptyArguments (text : List Char) : List Char :=
  dropEmptyFrom none text

/-- Accepts blank texts and those that can be read once empty argument lists are dropped. -/
def check (document : String) : Except GrammarFault Unit :=
  if Text.isBlankText document then .ok ()
  else (parse (dropEmptyArguments document.toList)).map fun _ => ()

/-- What is reported of a document that cannot be read. -/
def invalidMessage (fault : GrammarFault) : String :=
  "Generated SDL is not valid GraphQL: " ++ fault.message

end AppSync.Sdl
