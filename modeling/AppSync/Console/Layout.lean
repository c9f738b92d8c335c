import AppSync.Console.Width
import AppSync.Text.Split

/-! Layout of console texts: how they are spread over lines of a given width, counted in cells. -/

namespace AppSync.Console

/-- The width of the console. -/
def columns : Nat := 1000

/-! ## Tabs -/

/-- The distance between tab stops. -/
def tabStop : Nat := 8

/-- A line with blanks up to the next stop in place of tabs. -/
def expandTabs (column : Nat) : List Char → List Char
  | [] => []
  | c :: rest =>
    if c = '\t' then
      let gap := tabStop - column % tabStop
      List.replicate gap ' ' ++ expandTabs (column + gap) rest
    else c :: expandTabs (column + cellsOf c) rest

/-! ## Words that are too wide -/

/-- What becomes of a word that no line has room for. -/
inductive Overflow where
  /-- It goes on in the next line. -/
  | fold
  /-- It is cut off, with an ellipsis in place of its end. -/
  | ellipsis
deriving DecidableEq, Repr

/-- A text in pieces that fit into lines; `used` are the cells that the first piece has already. -/
def chop (limit used : Nat) : List Char → List (List Char)
  | [] => [[]]
  | c :: rest =>
    let fits := used + cellsOf c ≤ limit
    let pieces := chop limit (if fits then used + cellsOf c else cellsOf c) rest
    let first := c :: pieces.headD []
    if fits then first :: pieces.tail else [] :: first :: pieces.tail

/-- Halves the part of a text in which the end of its first `total` cells is looked for. -/
def cropBetween (total : Nat) (text : List Char) : Nat → Nat → Nat → List Char
  | 0, _, _ => text
  | fuel + 1, first, last =>
    let middle := (first + last) / 2
    let front := text.take (middle + 1)
    if width front = total + 1 && front.getLast?.any (cellsOf · == 2) then front.dropLast ++ [' ']
    else if width front = total then front
    else if total < width front then cropBetween total text fuel first middle
    else cropBetween total text fuel middle last

/-- As much of a text as has room in some cells; half of a wide character is a blank. -/
def crop (total : Nat) (text : List Char) : List Char :=
  if total = 0 then []
  else if width text ≤ total then text
  else cropBetween total text (text.length + 1) 0 text.length

/-- A line that is too wide, cut off. -/
def truncate (overflow : Overflow) (limit : Nat) (line : List Char) : List Char :=
  if width line ≤ limit then line
  else
    match overflow with
    | .fold => crop limit line
    | .ellipsis => crop (limit - 1) line ++ ['…']

/-! ## Lines -/

/-- The blanks that a line begins with, and its words, each with the blanks behind it. -/
def spacedWords : List Char → List Char × List (List Char)
  | [] => ([], [])
  | c :: rest =>
    let (blanks, words) := spacedWords rest
    if Text.isBlank c then (c :: blanks, words)
    else
      match blanks, words with
      | [], word :: others => ([], (c :: word) :: others)
      | blanks, words => ([], (c :: blanks) :: words)

/-- Lines that are being filled: those that are full, the last one first, and the one at hand. -/
structure Filling where
  full : List (List Char) := []
  line : List Char := []
  /-- The cells that the line at hand takes up. -/
  used : Nat := 0

namespace Filling

/-- Begins a line; the one at hand is full then, unless nothing has been filled yet. -/
def begin (filling : Filling) (line : List Char) : Filling :=
  if filling.full.isEmpty && filling.line.isEmpty then ⟨[], line, width line⟩
  else ⟨filling.line :: filling.full, line, width line⟩

/-- Adds a word with the blanks behind it, for which no room is needed. -/
def add (overflow : Overflow) (limit : Nat) (filling : Filling) (word : List Char) : Filling :=
  let size := width (Text.trimEndBy Text.isBlank word)
  if filling.used + size ≤ limit then
    { filling with line := filling.line ++ word, used := filling.used + width word }
  else if limit < size && overflow = .fold then (chop limit 0 word).foldl begin filling
  else filling.begin word

/-- The lines that are filled. -/
def lines (filling : Filling) : List (List Char) :=
  (filling.line :: filling.full).reverse

end Filling

/-- A line without blanks at its end, as far as it is longer than a limit. -/
def dropEndBlanks (limit : Nat) (line : List Char) : List Char :=
  let blanks := (line.reverse.takeWhile Text.isBlank).length
  line.take (line.length - min blanks (line.length - limit))

/-- A line in lines of a limited width. -/
def wrapLine (overflow : Overflow) (limit : Nat) (line : List Char) : List (List Char) :=
  let line := expandTabs 0 line
  let filled := match spacedWords line with
    | (_, []) => [line]
    | (blanks, word :: others) =>
      (((blanks ++ word) :: others).foldl (Filling.add overflow limit) {}).lines
  filled.map fun line => truncate overflow limit (dropEndBlanks limit line)

/-- A text in lines of a limited width. -/
def wrap (overflow : Overflow) (limit : Nat) (text : List Char) : List (List Char) :=
  (Text.split (· = '\n') text).flatMap (wrapLine overflow limit)

end AppSync.Console
