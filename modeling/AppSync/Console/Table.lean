import AppSync.Console.Markup
import AppSync.Text.Line

/-!
Tables of console texts: a title, a row of headers and rows of cells, and panels with a title.
Columns are as wide as their widest cells unless that is wider than the console.
-/

namespace AppSync.Console

/-! ## Widths of columns -/

/-- The blanks around a cell. -/
def cellPadding : Nat := 2

/-- The cells that the widest line of a text takes up. -/
def naturalWidth (text : List Char) : Nat :=
  ((Text.lines text).map width).foldl max 0

/-- The nearest integer to a quotient; of two that are equally near, the even one. -/
def roundedQuotient (dividend divisor : Nat) : Nat :=
  let quotient := dividend / divisor
  let twice := 2 * (dividend % divisor)
  if twice < divisor then quotient
  else if divisor < twice then quotient + 1
  else quotient + quotient % 2

/-- Takes an excess off the widths that are chosen, evenly, and no more than a bound off each. -/
def reduceChosen (bound : Nat) (isChosen : Nat → Bool) : Nat → Nat → List Nat → List Nat
  | _, _, [] => []
  | excess, count, size :: rest =>
    if isChosen size && 0 < count then
      let share := min bound (roundedQuotient excess count)
      (size - share) :: reduceChosen bound isChosen (excess - share) (count - 1) rest
    else size :: reduceChosen bound isChosen excess count rest

/-- The width of columns side by side. -/
def totalWidth (sizes : List Nat) : Nat :=
  sizes.foldl (· + ·) 0

/-- Widths that fit into a total: the greatest ones are taken down to the next, until all fit. -/
def collapse (total : Nat) : Nat → List Nat → List Nat
  | 0, sizes => sizes
  | fuel + 1, sizes =>
    let excess := totalWidth sizes - total
    if excess = 0 then sizes
    else
      let greatest := sizes.foldl max 0
      let next := (sizes.filter (· ≠ greatest)).foldl max 0
      let bound := min excess (greatest - next)
      collapse total fuel
        (reduceChosen bound (· = greatest) excess (sizes.count greatest) sizes)

/-- The widths of columns with given texts. -/
def columnWidths (texts : List (List (List Char))) : List Nat :=
  let total := columns - (texts.length + 1)
  let natural := texts.map fun column =>
    min total ((column.map naturalWidth).foldl max 0 + cellPadding)
  let collapsed := collapse total (totalWidth natural) natural
  (natural.zip collapsed).map fun sizes => min sizes.1 sizes.2

/-! ## Rows -/

/-- What stands between two cells of a row. -/
def cellGap : String := " | "

/-- The lines of a cell in a column. -/
def cellLines (columnWidth : Nat) (text : List Char) : List String :=
  (wrap .ellipsis (columnWidth - cellPadding) text).map fun line => Text.trim (String.ofList line)

/-- The cells of one line of a row; a cell with fewer lines is empty there. -/
def lineOfCells (index : Nat) (cells : List (List String)) : String :=
  String.intercalate cellGap (cells.map fun lines => (lines[index]?).getD "")

/-- The lines of a row in columns of given widths. -/
def rowLines (sizes : List Nat) (row : List (List Char)) : List String :=
  let cells := List.zipWith cellLines sizes row
  (List.range ((cells.map List.length).foldl max 0)).map fun index => lineOfCells index cells

/-- The lines of a table whose cells are marked texts. -/
def tableLines (title : String) (headers : List String) (rows : List (List String)) :
    Except Accident (List String) := do
  let shown ← (headers :: rows).mapM fun row => row.mapM shownCharacters
  let sizes := columnWidths ((List.range headers.length).map fun index =>
    shown.map fun row => row.getD index [])
  return title :: shown.flatMap (rowLines sizes)

/-- The cells that the frame of a panel takes up in a line. -/
def framePadding : Nat := 4

/-- The lines of a panel: its title and the lines of its marked text. -/
def panelLines (title content : String) : Except Accident (List String) := do
  return title :: (← shownWithin (columns - framePadding) content).map Text.trim

end AppSync.Console
