import AppSync.Yaml.Mark

/-! Cursors: what is left of a text, together with the place that it begins at. -/

namespace AppSync.Yaml

/-- The rest of a text and its place. -/
structure Cursor where
  rest : List Char
  mark : Mark := {}
deriving Inhabited

namespace Cursor

/-- The character some steps ahead. -/
def ahead (steps : Nat) (cursor : Cursor) : Char :=
  (cursor.rest.drop steps).headD ending

/-- The next character. -/
def next (cursor : Cursor) : Char :=
  cursor.rest.headD ending

/-- The cursor behind the next character. -/
def step (cursor : Cursor) : Cursor :=
  match cursor.rest with
  | [] => cursor
  | c :: rest => ⟨rest, cursor.mark.past c (rest.headD ending)⟩

/-- The cursor behind a number of characters. -/
def steps : Nat → Cursor → Cursor
  | 0, cursor => cursor
  | count + 1, cursor => steps count cursor.step

/-- The characters of a class that come next. -/
def run (member : Char → Bool) (cursor : Cursor) : List Char :=
  cursor.rest.takeWhile member

/-- The cursor behind the characters of a class that come next. -/
def skip (member : Char → Bool) (cursor : Cursor) : Cursor :=
  steps (cursor.run member).length cursor

/-- The number of the column. -/
def column (cursor : Cursor) : Nat :=
  cursor.mark.column

/-- Whether the next three characters are a given one and something separates them from more. -/
def isMarker (c : Char) (cursor : Cursor) : Bool :=
  cursor.rest.take 3 == [c, c, c] && isGap (cursor.ahead 3)

/-- Whether a mark of document start or end comes next. -/
def isSeparator (cursor : Cursor) : Bool :=
  cursor.isMarker '-' || cursor.isMarker '.'

/-- The line break that comes next: all but two kinds count as a line feed. -/
def lineBreak? (cursor : Cursor) : Option (Char × Cursor) :=
  let c := cursor.next
  if c = '\r' ∧ cursor.ahead 1 = '\n' then some ('\n', cursor.steps 2)
  else if c = '\r' ∨ c = '\n' ∨ c = '\u0085' then some ('\n', cursor.step)
  else if c = '\u2028' ∨ c = '\u2029' then some (c, cursor.step)
  else none

/-- The cursor behind a line break, if one comes next. -/
def skipBreak (cursor : Cursor) : Cursor :=
  match cursor.lineBreak? with
  | some (_, behind) => behind
  | none => cursor

/-- The cursor behind a comment, if one comes next. -/
def skipComment (cursor : Cursor) : Cursor :=
  if cursor.next = '#' then cursor.skip fun c => !isEnd c else cursor

end Cursor

end AppSync.Yaml
