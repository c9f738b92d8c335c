/-! Line boundaries of Unicode text: a text is the list of its lines, and a final break opens no line. -/

namespace AppSync.Text

/-- Characters that end a line: the line feed family, the separators and the next-line control. -/
@[irreducible] def isLineBreak (c : Char) : Bool :=
  c == '\n' || c == '\r' || c == '\x0b' || c == '\x0c' || c == '\x1c' || c == '\x1d' ||
    c == '\x1e' || c == '\u0085' || c == '\u2028' || c == '\u2029'

/-- The lines of a text without their breaks; a carriage return with its line feed is one break. -/
def lines : List Char → List (List Char)
  | [] => []
  | '\r' :: '\n' :: rest => [] :: lines rest
  | c :: rest =>
    if isLineBreak c then [] :: lines rest
    else
      -- A character that ends nothing joins the line that the rest begins with.
      match lines rest with
      | [] => [[c]]
      | line :: more => (c :: line) :: more

/-- Every carriage return, alone or before a line feed, becomes one line feed. -/
def unifyNewlines : List Char → List Char
  | [] => []
  | '\r' :: '\n' :: rest => '\n' :: unifyNewlines rest
  | '\r' :: rest => '\n' :: unifyNewlines rest
  | c :: rest => c :: unifyNewlines rest

/-- A carriage return before a line feed is dropped; one that stands alone is kept. -/
def foldPairedReturns : List Char → List Char
  | [] => []
  | '\r' :: '\n' :: rest => '\n' :: foldPairedReturns rest
  | c :: rest => c :: foldPairedReturns rest

end AppSync.Text
