/-! Places in a text, and the piece of the text that a message shows for one. -/

namespace AppSync.Yaml

/-- Characters that end a line. -/
def isBreak (c : Char) : Bool :=
  c == '\n' || c == '\r' || c == '\u0085' || c == '\u2028' || c == '\u2029'

/-- The character that stands for the end of a text, in which it cannot occur. -/
def ending : Char := '\x00'

/-- Line ends and the end of the text. -/
def isEnd (c : Char) : Bool :=
  isBreak c || c == ending

/-- Line ends and blanks. -/
def isSpaceOrEnd (c : Char) : Bool :=
  isEnd c || c == ' '

/-- What separates tokens: line ends, blanks and tabs. -/
def isGap (c : Char) : Bool :=
  isSpaceOrEnd c || c == '\t'

/-- A place: characters before it in all, lines before it, and characters before it in its line. -/
structure Mark where
  index : Nat := 0
  line : Nat := 0
  column : Nat := 0
deriving DecidableEq, Repr, Inhabited

namespace Mark

/-- The mark of byte order, which takes no column. -/
def byteOrderMark : Char := '\ufeff'

/-- The place behind a character; a carriage return leaves its line to a line feed after it. -/
def past (c next : Char) (mark : Mark) : Mark :=
  if isBreak c && !(c == '\r' && next == '\n') then ⟨mark.index + 1, mark.line + 1, 0⟩
  else if c = byteOrderMark then { mark with index := mark.index + 1 }
  else { mark with index := mark.index + 1, column := mark.column + 1 }

/-- The longest piece of a line that is shown on one side of a place. -/
def sideLimit : Nat := 37

/-- The part of a side that is shown when it exceeds the limit. -/
def shortenedSide : Nat := 32

/-- The mark of a side that was shortened. -/
def omission : String := " ... "

/-- The line around a place, with a caret below the place. -/
def snippet (text : List Char) (mark : Mark) : String :=
  let before := (text.take mark.index).reverse.takeWhile fun c => !isEnd c
  let after := (text.drop mark.index).takeWhile fun c => !isEnd c
  let head := if before.length < sideLimit then before else before.take shortenedSide
  let tail := if after.length < sideLimit then after else after.take shortenedSide
  let opening := if before.length < sideLimit then "" else omission
  let closing := if after.length < sideLimit then "" else omission
  let indent := "    "
  indent ++ opening ++ String.ofList (head.reverse ++ tail) ++ closing ++ "\n" ++
    String.ofList (List.replicate (indent.length + head.length + opening.length) ' ') ++ "^"

/-- Line and column, counted from one, and the piece of the text. -/
def shown (text : List Char) (mark : Mark) : String :=
  s!"  in \"<unicode string>\", line {mark.line + 1}, column {mark.column + 1}:\n" ++
    mark.snippet text

end Mark

end AppSync.Yaml
