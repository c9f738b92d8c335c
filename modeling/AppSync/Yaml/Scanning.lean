import AppSync.Yaml.Cursor
import AppSync.Yaml.Fault

/-! Reading from a cursor: each step may move it on or meet a fault at its place. -/

namespace AppSync.Yaml

/-- Reading with a cursor. -/
abbrev Scanning := StateT Cursor (Except Failure)

namespace Scanning

/-- The place of the cursor. -/
def place : Scanning Mark := do
  return (← get).mark

/-- The next character. -/
def next : Scanning Char := do
  return (← get).next

/-- Moves behind a number of characters. -/
def advance (count : Nat) : Scanning Unit :=
  modify (Cursor.steps count)

/-- Moves behind the characters of a class, which are returned. -/
def takeWhile (member : Char → Bool) : Scanning (List Char) := do
  let cursor ← get
  let found := cursor.run member
  set (cursor.steps found.length)
  return found

/-- A fault at the place of the cursor, in an activity that began at another place. -/
def fail {α : Type} (activity : Activity) (start : Mark) (problem : Problem) : Scanning α := do
  throw (.fault ⟨problem, ← place, some activity, some start⟩)

/-- A fault about the next character. -/
def failAtNext {α : Type} (activity : Activity) (start : Mark) (expected : Expected) :
    Scanning α := do
  fail activity start (.unexpected expected (← next))

/-- Requires that the next character belongs to a class. -/
def require (activity : Activity) (start : Mark) (expected : Expected) (member : Char → Bool) :
    Scanning Unit := do
  if !member (← next) then failAtNext activity start expected

/-- Moves behind blanks, a comment and the line break, which have to be all that is left of a line. -/
def finishLine (activity : Activity) (start : Mark) : Scanning Unit := do
  modify (Cursor.skip (· == ' '))
  modify Cursor.skipComment
  require activity start .commentOrBreak isEnd
  modify Cursor.skipBreak

end Scanning

end AppSync.Yaml
