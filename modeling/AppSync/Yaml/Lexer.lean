import AppSync.Yaml.Property
import AppSync.Yaml.Scalar

/-!
Tokens of a text. A token may turn out to begin a key only when a colon is met later, so marks of
keys and mappings are put in front of tokens that were found before.
-/

namespace AppSync.Yaml

/-- A token that may begin a key: its number, its place and the nesting of brackets around it. -/
structure PossibleKey where
  level : Nat
  number : Nat
  mark : Mark
  /-- Nothing but a key can stand where the token stands. -/
  isRequired : Bool
deriving Inhabited

/-- The state between two tokens. -/
structure Lexer where
  cursor : Cursor
  /-- The tokens found, the last one first. -/
  tokens : List Token := []
  /-- The nesting of brackets. -/
  level : Nat := 0
  /-- The column of the innermost block collection. -/
  indent : Int := -1
  /-- The columns of the block collections around it, the innermost first. -/
  outer : List Int := []
  /-- Whether a key may begin here. -/
  keyAllowed : Bool := true
  /-- At most one possible key for each nesting of brackets. -/
  keys : List PossibleKey := []
deriving Inhabited

namespace Lexer

/-- The longest distance from the start of a key to its colon. -/
def keyReach : Nat := 1024

/-- A fault that names no activity. -/
def fault (lexer : Lexer) (problem : Problem) : Failure :=
  .fault ⟨problem, lexer.cursor.mark, none, none⟩

/-- The fault of a required key without its colon. -/
def missedColon (lexer : Lexer) (key : PossibleKey) : Failure :=
  .fault ⟨.missingColon, lexer.cursor.mark, some .simpleKey, some key.mark⟩

/-- Whether a token is too far behind to begin a key. -/
def isStale (lexer : Lexer) (key : PossibleKey) : Bool :=
  key.mark.line ≠ lexer.cursor.mark.line || keyReach < lexer.cursor.mark.index - key.mark.index

/-- Forgets possible keys by a rule; a required one cannot be forgotten. -/
def forget (forgotten : PossibleKey → Bool) (lexer : Lexer) : Except Failure Lexer :=
  match lexer.keys.find? fun key => forgotten key && key.isRequired with
  | some key => .error (lexer.missedColon key)
  | none => .ok { lexer with keys := lexer.keys.filter fun key => !forgotten key }

/-- Forgets possible keys that are too far behind. -/
def forgetStale (lexer : Lexer) : Except Failure Lexer :=
  lexer.forget lexer.isStale

/-- Forgets the possible key of the present nesting. -/
def forgetHere (lexer : Lexer) : Except Failure Lexer :=
  lexer.forget fun key => key.level = lexer.level

/-- Notes that the next token may begin a key. -/
def notePossibleKey (lexer : Lexer) : Except Failure Lexer := do
  if !lexer.keyAllowed then return lexer
  let isRequired := lexer.level = 0 && lexer.indent = lexer.cursor.column
  let lexer ← lexer.forgetHere
  let key : PossibleKey := ⟨lexer.level, lexer.tokens.length, lexer.cursor.mark, isRequired⟩
  return { lexer with keys := lexer.keys ++ [key] }

/-- Adds a token. -/
def push (lexeme : Lexeme) (start stop : Mark) (lexer : Lexer) : Lexer :=
  { lexer with tokens := ⟨lexeme, start, stop⟩ :: lexer.tokens }

/-- Adds a token that takes no characters. -/
def mark (lexeme : Lexeme) (lexer : Lexer) : Lexer :=
  lexer.push lexeme lexer.cursor.mark lexer.cursor.mark

/-- Adds a token that takes a number of characters. -/
def take (count : Nat) (lexeme : Lexeme) (lexer : Lexer) : Lexer :=
  let behind := lexer.cursor.steps count
  { lexer.push lexeme lexer.cursor.mark behind.mark with cursor := behind }

/-- Puts a token in front of the one with a given number. -/
def insert (number : Nat) (token : Token) (lexer : Lexer) : Lexer :=
  let later := lexer.tokens.length - number
  { lexer with tokens := lexer.tokens.take later ++ token :: lexer.tokens.drop later }

/-- Closes block collections that are deeper than a column. -/
def closeDeeper (column : Int) (tokens : List Token) (mark : Mark) (indent : Int) :
    List Int → List Token × Int × List Int
  | [] => (tokens, indent, [])
  | outer :: rest =>
    if column < indent then closeDeeper column (⟨.blockEnd, mark, mark⟩ :: tokens) mark outer rest
    else (tokens, indent, outer :: rest)

/-- Closes block collections that are deeper than a column, outside brackets. -/
def unwind (column : Int) (lexer : Lexer) : Lexer :=
  if lexer.level ≠ 0 then lexer
  else
    let (tokens, indent, outer) :=
      closeDeeper column lexer.tokens lexer.cursor.mark lexer.indent lexer.outer
    { lexer with tokens, indent, outer }

/-- Opens a block collection at a column that is deeper than the innermost one. -/
def deepen? (column : Nat) (lexer : Lexer) : Option Lexer :=
  if lexer.indent < column then
    some { lexer with indent := column, outer := lexer.indent :: lexer.outer }
  else none

/-- Adds the start of a block collection here, if it is deeper than the innermost one. -/
def openHere (lexeme : Lexeme) (lexer : Lexer) : Lexer :=
  match lexer.deepen? lexer.cursor.column with
  | some deeper => deeper.mark lexeme
  | none => lexer

/-- Takes a token by reading. -/
def scan (scanning : Scanning Lexeme) (lexer : Lexer) : Except Failure Lexer := do
  let (lexeme, behind) ← scanning.run lexer.cursor
  return { lexer.push lexeme lexer.cursor.mark behind.mark with cursor := behind }

/-- Moves behind blanks, comments and line breaks; outside brackets a key may begin a line. -/
def skipGaps (lexer : Lexer) : Nat → Lexer
  | 0 => lexer
  | fuel + 1 =>
    let cursor := (lexer.cursor.skip (· == ' ')).skipComment
    match cursor.lineBreak? with
    | none => { lexer with cursor }
    | some (_, behind) =>
      skipGaps
        { lexer with cursor := behind, keyAllowed := lexer.keyAllowed || lexer.level = 0 } fuel

/-- Moves behind a mark of byte order at the very start. -/
def skipByteOrderMark (lexer : Lexer) : Lexer :=
  if lexer.cursor.mark.index = 0 ∧ lexer.cursor.next = Mark.byteOrderMark then
    { lexer with cursor := lexer.cursor.step }
  else lexer

/-- Ends all block collections, after which no key may begin before a new line. -/
def endBlocks (lexer : Lexer) : Except Failure Lexer := do
  let lexer ← (lexer.unwind (-1)).forgetHere
  return { lexer with keyAllowed := false }

/-- The end of the text. -/
def takeStreamEnd (lexer : Lexer) : Except Failure Lexer := do
  let lexer ← lexer.endBlocks
  return { lexer with keys := [] }.mark .streamEnd

/-- A directive. -/
def takeDirective (lexer : Lexer) : Except Failure Lexer := do
  (← lexer.endBlocks).scan (do return .directive (← scanDirective))

/-- The start or end of a document. -/
def takeDocumentMark (lexeme : Lexeme) (lexer : Lexer) : Except Failure Lexer := do
  return (← lexer.endBlocks).take 3 lexeme

/-- An opening bracket, which may begin a key. -/
def takeOpening (lexeme : Lexeme) (lexer : Lexer) : Except Failure Lexer := do
  let lexer ← lexer.notePossibleKey
  return { lexer with level := lexer.level + 1, keyAllowed := true }.take 1 lexeme

/-- A closing bracket. -/
def takeClosing (lexeme : Lexeme) (lexer : Lexer) : Except Failure Lexer := do
  let lexer ← lexer.forgetHere
  return { lexer with level := lexer.level - 1, keyAllowed := false }.take 1 lexeme

/-- A comma between brackets. -/
def takeFlowEntry (lexer : Lexer) : Except Failure Lexer := do
  return (← { lexer with keyAllowed := true }.forgetHere).take 1 .flowEntry

/-- The sign of a list item, which outside brackets may open a list. -/
def takeBlockEntry (lexer : Lexer) : Except Failure Lexer := do
  if lexer.level = 0 ∧ !lexer.keyAllowed then throw (lexer.fault .sequenceNotAllowed)
  let lexer := if lexer.level = 0 then lexer.openHere .blockSequenceStart else lexer
  return (← { lexer with keyAllowed := true }.forgetHere).take 1 .blockEntry

/-- The sign of a key, which outside brackets may open a mapping. -/
def takeKey (lexer : Lexer) : Except Failure Lexer := do
  if lexer.level = 0 ∧ !lexer.keyAllowed then throw (lexer.fault .keyNotAllowed)
  let lexer := if lexer.level = 0 then lexer.openHere .blockMappingStart else lexer
  return (← { lexer with keyAllowed := lexer.level = 0 }.forgetHere).take 1 .key

/-- Puts the sign of a key, and if need be the start of a mapping, in front of a possible key. -/
def confirmKey (key : PossibleKey) (lexer : Lexer) : Lexer :=
  let lexer := { lexer with keys := lexer.keys.filter fun other => other.level ≠ key.level }
  let lexer := lexer.insert key.number ⟨.key, key.mark, key.mark⟩
  if lexer.level ≠ 0 then lexer
  else
    match lexer.deepen? key.mark.column with
    | some deeper => deeper.insert key.number ⟨.blockMappingStart, key.mark, key.mark⟩
    | none => lexer

/-- The sign of a value: it confirms a possible key, or follows the sign of one. -/
def takeValue (lexer : Lexer) : Except Failure Lexer := do
  match lexer.keys.find? fun key => key.level = lexer.level with
  | some key => return { lexer.confirmKey key with keyAllowed := false }.take 1 .value
  | none =>
    if lexer.level = 0 ∧ !lexer.keyAllowed then throw (lexer.fault .valueNotAllowed)
    let lexer := if lexer.level = 0 then lexer.openHere .blockMappingStart else lexer
    return (← { lexer with keyAllowed := lexer.level = 0 }.forgetHere).take 1 .value

/-- A token that may begin a key and after which none may begin. -/
def takeNode (scanning : Scanning Lexeme) (lexer : Lexer) : Except Failure Lexer := do
  let lexer ← lexer.notePossibleKey
  { lexer with keyAllowed := false }.scan scanning

/-- A block scalar, after which a key may begin. -/
def takeBlockScalar (lexer : Lexer) : Except Failure Lexer := do
  let lexer ← { lexer with keyAllowed := true }.forgetHere
  lexer.scan (scanBlock lexer.indent)

/-- A plain scalar, after which a key may begin if a line ended. -/
def takePlain (lexer : Lexer) : Except Failure Lexer := do
  let lexer ← lexer.notePossibleKey
  let ((lexeme, stop, lineEnded), behind) ←
    (scanPlain (lexer.level ≠ 0) (lexer.indent + 1)).run lexer.cursor
  return { lexer.push lexeme lexer.cursor.mark stop with
    cursor := behind, keyAllowed := lineEnded }

/-- Whether a plain scalar may begin with the next character. -/
def startsPlain (lexer : Lexer) : Bool :=
  let c := lexer.cursor.next
  !(isGap c || "-?:,[]\x7b\x7d#&*!|>'\"%@`".toList.contains c) ||
    (!isGap (lexer.cursor.ahead 1) && (c == '-' || (lexer.level = 0 && (c == '?' || c == ':'))))

/-- The token that begins with the next character. -/
def takeToken (lexer : Lexer) : Except Failure Lexer :=
  let cursor := lexer.cursor
  let c := cursor.next
  let inBlock := lexer.level = 0
  let apart := isGap (cursor.ahead 1)
  -- Marks of documents go before entries of lists, and every sign before plain scalars.
  if c = ending then lexer.takeStreamEnd
  else if c = '%' ∧ cursor.column = 0 then lexer.takeDirective
  else if cursor.column = 0 ∧ cursor.isMarker '-' then lexer.takeDocumentMark .documentStart
  else if cursor.column = 0 ∧ cursor.isMarker '.' then lexer.takeDocumentMark .documentEnd
  else if c = '[' then lexer.takeOpening .flowSequenceStart
  else if c = '\x7b' then lexer.takeOpening .flowMappingStart
  else if c = ']' then lexer.takeClosing .flowSequenceEnd
  else if c = '\x7d' then lexer.takeClosing .flowMappingEnd
  else if c = ',' then lexer.takeFlowEntry
  else if c = '-' ∧ apart then lexer.takeBlockEntry
  else if c = '?' ∧ (!inBlock ∨ apart) then lexer.takeKey
  else if c = ':' ∧ (!inBlock ∨ apart) then lexer.takeValue
  else if c = '*' ∨ c = '&' then lexer.takeNode scanName
  else if c = '!' then lexer.takeNode scanTag
  else if (c = '|' ∨ c = '>') ∧ inBlock then lexer.takeBlockScalar
  else if c = '\'' ∨ c = '"' then lexer.takeNode scanQuoted
  else if lexer.startsPlain then lexer.takePlain
  else .error (.fault ⟨.strayCharacter c, cursor.mark, some .token, none⟩)

/-- Takes the next token. -/
def next (lexer : Lexer) : Except Failure Lexer := do
  let lexer := lexer.skipByteOrderMark
  let lexer ← (lexer.skipGaps (lexer.cursor.rest.length + 1)).forgetStale
  let lexer ← (lexer.unwind lexer.cursor.column).takeToken
  -- Whether the token may begin a key is asked again before it is handed on.
  lexer.forgetStale

/-- The number of tokens that cannot change any more: those before the first possible key. -/
def settled (lexer : Lexer) : Nat :=
  (lexer.keys.map PossibleKey.number).foldl min lexer.tokens.length

/-- Whether the end of the text has been taken. -/
def isDone (lexer : Lexer) : Bool :=
  match lexer.tokens with
  | token :: _ => token.lexeme = .streamEnd
  | [] => false

/-- All tokens, or those before a failure, and the failure. -/
def runFrom (lexer : Lexer) : Nat → List Token × Option Failure
  | 0 => (lexer.tokens.reverse, none)
  | fuel + 1 =>
    if lexer.isDone then (lexer.tokens.reverse, none)
    else
      match lexer.next with
      | .error failure => (lexer.tokens.reverse.take lexer.settled, some failure)
      | .ok lexer => runFrom lexer fuel

end Lexer

/-- The tokens of a text, up to the failure that ends them if there is one. -/
def tokens (text : List Char) : List Token × Option Failure :=
  let start : Lexer := { cursor := ⟨text, {}⟩ }
  (start.mark .streamStart).runFrom (text.length + 2)

end AppSync.Yaml
