import AppSync.Console.Emoji
import AppSync.Console.Layout
import AppSync.Console.Literal
import AppSync.Console.Style

/-!
Markup of console texts: marks in brackets set styles and are not shown. A mark behind a backslash
is shown as it is, so any text can be shown after its marks are escaped.
-/

namespace AppSync.Console

/-- Characters that a mark begins with, behind its bracket. -/
def startsMark (c : Char) : Bool :=
  ('a' ≤ c && c ≤ 'z') || c == '#' || c == '/' || c == '@'

/-- The inside of a mark whose opening bracket has been passed, and the rest behind the mark. -/
def mark? (chars : List Char) : Option (List Char × List Char) :=
  match chars with
  | first :: others =>
    let inside := others.takeWhile fun c => c != '[' && c != ']'
    match others.dropWhile fun c => c != '[' && c != ']' with
    | ']' :: rest => if startsMark first then some (first :: inside, rest) else none
    | _ => none
  | [] => none

/-- A mark behind backslashes. -/
structure Marked where
  backslashes : Nat
  inside : List Char
  rest : List Char

/-- The mark that a text begins with, behind any number of backslashes. -/
def marked? (chars : List Char) : Option Marked :=
  match chars.dropWhile (· == '\\') with
  | '[' :: tail =>
    (mark? tail).map fun found =>
      ⟨(chars.takeWhile (· == '\\')).length, found.1, found.2⟩
  | _ => none

/-- Backslashes. -/
def backslashes (count : Nat) : List Char :=
  List.replicate count '\\'

/-- A text with every mark escaped; the fuel bounds its length. -/
def escapeMarks : Nat → List Char → List Char
  | 0, chars => chars
  | _, [] => []
  | fuel + 1, c :: rest =>
    match marked? (c :: rest) with
    | some found =>
      backslashes (2 * found.backslashes + 1) ++ '[' :: found.inside ++ ']' ::
        escapeMarks fuel found.rest
    | none =>
      -- No mark follows these backslashes, so none of them begins one either.
      let run := (c :: rest).takeWhile (· == '\\')
      if run.isEmpty then c :: escapeMarks fuel rest
      else run ++ escapeMarks fuel ((c :: rest).drop run.length)

/-- A single backslash at the end is doubled. -/
def doubleFinalBackslash (chars : List Char) : List Char :=
  match chars.reverse with
  | '\\' :: '\\' :: _ => chars
  | '\\' :: _ => chars ++ ['\\']
  | _ => chars

/-- A text in which nothing is a mark, for a place before more text. -/
def escapeInside (text : String) : String :=
  String.ofList (escapeMarks text.length text.toList)

/-- A text in which nothing is a mark. -/
def escape (text : String) : String :=
  String.ofList (doubleFinalBackslash (escapeMarks text.length text.toList))

/-- A piece of a text: characters that are shown, or a mark and the number of characters before it. -/
inductive Piece where
  | plain (chars : List Char)
  | mark (inside : List Char) (position : Nat)

/-- The pieces of a text; `sofar` are the characters shown before, the last one first. -/
def pieces (position : Nat) (sofar : List Char) : Nat → List Char → List Piece
  | 0, _ => [.plain sofar.reverse]
  | _, [] => [.plain sofar.reverse]
  | fuel + 1, c :: rest =>
    match marked? (c :: rest) with
    | some found =>
      let pairs := found.backslashes / 2
      let behind := position + found.backslashes + found.inside.length + 2
      let shown : List Piece := [.plain sofar.reverse, .plain (backslashes pairs)]
      -- Two backslashes stand for one, and a single one in front takes the mark for text.
      if found.backslashes % 2 = 1 then
        shown ++ .plain ('[' :: found.inside ++ [']']) :: pieces behind [] fuel found.rest
      else
        shown ++ .mark found.inside (position + 2 * pairs) :: pieces behind [] fuel found.rest
    | none =>
      let run := (c :: rest).takeWhile (· == '\\')
      if run.isEmpty then pieces (position + 1) (c :: sofar) fuel rest
      else
        pieces (position + run.length) (run ++ sofar) fuel ((c :: rest).drop run.length)

/-- A backslash before a bracket is not shown. -/
def dropBracketBackslashes : List Char → List Char
  | '\\' :: '[' :: rest => '[' :: dropBracketBackslashes rest
  | c :: rest => c :: dropBracketBackslashes rest
  | [] => []

/-! ## Marks that set styles -/

/-- A mark that sets a style until it is closed. -/
structure Mark where
  /-- The text by which it is compared. -/
  name : List Char
  /-- What stands behind an equals sign. -/
  parameters : List Char
deriving DecidableEq, Repr

namespace Mark

/-- A mark's name, in front of its parameters. -/
def nameOf (inside : List Char) : List Char :=
  inside.takeWhile (· != '=')

/-- The mark that opens a style. -/
def read (inside : List Char) : Except Accident Mark := do
  return ⟨← styleName (nameOf inside), (inside.dropWhile (· != '=')).drop 1⟩

/-- The description of a mark's style. -/
def description (mark : Mark) : List Char :=
  mark.name ++ ' ' :: mark.parameters

/-- The literal in the parameters of an action; there may be a name before it, or only a name. -/
def literal (parameters : List Char) : List Char :=
  let behind := parameters.dropWhile fun c => Text.isIdentifierPart c || c == '.'
  if behind.isEmpty then "()".toList
  else if behind.head? = some '(' && behind.getLast? = some ')' && !behind.contains '\n' then behind
  else parameters

/-- Closes a mark, which has to be well formed if it names an action. -/
def close (mark : Mark) : Except Accident Unit :=
  if mark.name.head? = some '@' && !mark.parameters.isEmpty then
    let literal := literal (Text.trimBy Text.isBlank mark.parameters)
    match Literal.flaw? literal with
    | some flaw =>
      .error (.actionParameters (String.ofList literal) (String.ofList mark.parameters) flaw.message)
    | none => .ok ()
  else .ok ()

end Mark

/-- The marks that are open, the last one first, and the characters shown so far. -/
structure Showing where
  opened : List Mark := []
  closed : List Mark := []
  shown : List Char := []

namespace Showing

/-- Shows characters; a backslash before a bracket is dropped, and names of emoji stand for them. -/
def plain (showing : Showing) (chars : List Char) : Showing :=
  { showing with shown := showing.shown ++ withEmoji (dropBracketBackslashes chars) }

/-- Closes a mark that is open. -/
def close (showing : Showing) (mark : Mark) : Except Accident Showing := do
  mark.close
  return { showing with opened := showing.opened.erase mark, closed := mark :: showing.closed }

/-- Opens or closes a style; what is closed has to be open. -/
def mark (showing : Showing) (inside : List Char) (position : Nat) : Except Accident Showing :=
  match Mark.nameOf inside with
  | '/' :: name =>
    if (Text.trimBy Text.isBlank name).isEmpty then
      match showing.opened with
      | [] => .error (.unopenedMark "[/]" position)
      | last :: _ => showing.close last
    else do
      let name ← styleName (Text.trimBy Text.isBlank name)
      match showing.opened.find? fun mark => mark.name = name with
      | some mark => showing.close mark
      | none => .error (.unopenedMark (String.ofList ('[' :: inside ++ [']'])) position)
  | _ => do
    return { showing with opened := (← Mark.read inside) :: showing.opened }

/-- Shows pieces. -/
def pieces (showing : Showing) : List Piece → Except Accident Showing
  | [] => .ok showing
  | .plain chars :: rest => (showing.plain chars).pieces rest
  | .mark inside position :: rest => do (← showing.mark inside position).pieces rest

/-- The styles of the marks; to read one of them may be an accident. -/
def readStyles (showing : Showing) : Except Accident Unit :=
  (showing.closed ++ showing.opened).forM fun mark => do
    let _ ← Style.read mark.description

end Showing

/-! ## Lines -/

/-- Controls that a console is not sent. -/
def isSilenced (c : Char) : Bool :=
  c == '\x07' || c == '\x08' || c == '\x0b' || c == '\x0c' || c == '\r'

/-- The characters that a marked text shows. -/
def shownCharacters (markup : String) : Except Accident (List Char) := do
  let showing ← Showing.pieces {} (pieces 0 [] markup.length markup.toList)
  showing.readStyles
  return showing.shown.filter fun c => !isSilenced c

/-- The lines that a marked text shows in lines of a limited width. -/
def shownWithin (limit : Nat) (markup : String) : Except Accident (List String) := do
  return (wrap .fold limit (← shownCharacters markup)).map String.ofList

/-- The lines that a marked text shows on the console. -/
def shownLines (markup : String) : Except Accident (List String) :=
  shownWithin columns markup

end AppSync.Console
