import AppSync.Accident
import AppSync.Text.Quoted

/-! What can be wrong with a TOML text, and where. -/

namespace AppSync.Toml

/-- The parts of a key, from the outermost table on. -/
abbrev Key := List String

/-- A key as it shows in messages. -/
def shownKey (key : Key) : String :=
  match key with
  | [part] => "(" ++ Text.quoted part ++ ",)"
  | parts => "(" ++ String.intercalate ", " (parts.map Text.quoted) ++ ")"

/-- What is wrong. -/
inductive Problem where
  | strayStatement
  | trailingText
  | strayCharacter (found : Char)
  | strayStringCharacter (found : Char)
  | unclosed (delimiter : String)
  | unterminatedString
  | strayBackslash
  | invalidHex
  | invalidScalar
  | invalidKeyStart
  | missingEquals
  | invalidValue
  | invalidDate
  | unclosedArray
  | unclosedInlineTable
  | unclosedTableHeader
  | unclosedArrayHeader
  | declaredTwice (key : Key)
  | redefined (key : Key)
  | frozen (key : Key)
  | overwritten
  | repeatedInlineKey (key : String)
deriving DecidableEq, Repr

/-- The sentence that states a problem. -/
def Problem.text : Problem → String
  | strayStatement => "Invalid statement"
  | trailingText => "Expected newline or end of document after a statement"
  | strayCharacter found => "Found invalid character " ++ Text.quoted found.toString
  | strayStringCharacter found => "Illegal character " ++ Text.quoted found.toString
  | unclosed delimiter => "Expected " ++ Text.quoted delimiter
  | unterminatedString => "Unterminated string"
  | strayBackslash => "Unescaped '\\' in a string"
  | invalidHex => "Invalid hex value"
  | invalidScalar => "Escaped character is not a Unicode scalar value"
  | invalidKeyStart => "Invalid initial character for a key part"
  | missingEquals => "Expected '=' after a key in a key/value pair"
  | invalidValue => "Invalid value"
  | invalidDate => "Invalid date or datetime"
  | unclosedArray => "Unclosed array"
  | unclosedInlineTable => "Unclosed inline table"
  | unclosedTableHeader => "Expected ']' at the end of a table declaration"
  | unclosedArrayHeader => "Expected ']]' at the end of an array declaration"
  | declaredTwice key => s!"Cannot declare {shownKey key} twice"
  | redefined key => "Cannot redefine namespace " ++ shownKey key
  | frozen key => "Cannot mutate immutable namespace " ++ shownKey key
  | overwritten => "Cannot overwrite a value"
  | repeatedInlineKey key => "Duplicate inline table key " ++ Text.quoted key

/-- A problem, and how many characters of the text follow its place. -/
structure Fault where
  problem : Problem
  left : Nat
deriving DecidableEq, Repr

/-- The place before the last characters of a text: line and column, counted from one. -/
def placeText (text : List Char) (left : Nat) : String :=
  if left = 0 then "end of document"
  else
    let before := text.take (text.length - left)
    let line := before.count '\n'
    let column := (before.reverse.takeWhile (· ≠ '\n')).length
    s!"line {line + 1}, column {column + 1}"

/-- The problem and its place. -/
def Fault.message (text : List Char) (fault : Fault) : String :=
  s!"{fault.problem.text} (at {placeText text fault.left})"

/-- Why a text holds no tables. -/
inductive Failure where
  | fault (fault : Fault)
  | accident (accident : Accident)
deriving DecidableEq, Repr

/-- Reading from the rest of a text. -/
abbrev Scanning := StateT (List Char) (Except Failure)

namespace Scanning

/-- The next character. -/
def next? : Scanning (Option Char) := do
  return (← get).head?

/-- Moves behind a number of characters. -/
def advance (count : Nat) : Scanning Unit :=
  modify (List.drop count)

/-- Moves behind the characters of a class, which are returned. -/
def takeWhile (member : Char → Bool) : Scanning (List Char) := do
  let rest ← get
  set (rest.dropWhile member)
  return rest.takeWhile member

/-- Moves behind the characters of a class. -/
def skip (member : Char → Bool) : Scanning Unit := do
  let _ ← takeWhile member

/-- Whether given characters come next. -/
def comes (start : List Char) : Scanning Bool := do
  return start.isPrefixOf (← get)

/-- A fault before given characters. -/
def failBefore {α : Type} (rest : List Char) (problem : Problem) : Scanning α :=
  throw (.fault ⟨problem, rest.length⟩)

/-- A fault at the place that has been reached. -/
def fail {α : Type} (problem : Problem) : Scanning α := do
  failBefore (← get) problem

end Scanning

end AppSync.Toml
