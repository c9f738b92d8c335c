import AppSync.Yaml.Lexer
import AppSync.Yaml.Node

/-! The one document of a text: tokens put together to nodes, aliases replaced by what they name. -/

namespace AppSync.Yaml

/-- What is left of the tokens, the failure behind them, and what names stand for. -/
structure Reader where
  tokens : List Token
  failure : Option Failure
  handles : List (String × String) := []
  anchors : List (String × Node) := []
  /-- How many collections have begun. -/
  collections : Nat := 0

/-- Putting tokens together. -/
abbrev Composing := StateT Reader (Except Failure)

namespace Composing

/-- The next token; a failure of the text comes up only when its token is asked for. -/
def peek : Composing Token := do
  let reader ← get
  match reader.tokens, reader.failure with
  | token :: _, _ => return token
  | [], some failure => throw failure
  | [], none => return ⟨.streamEnd, {}, {}⟩

/-- Takes the next token. -/
def take : Composing Token := do
  let token ← peek
  modify fun reader => { reader with tokens := reader.tokens.drop 1 }
  return token

/-- Whether the next token belongs to a class. -/
def isNext (member : Lexeme → Bool) : Composing Bool := do
  return member (← peek).lexeme

/-- The fault of a token that cannot stand where it stands. -/
def unfit {α : Type} (activity : Activity) (start : Mark) (problem : String → Problem) :
    Composing α := do
  let token ← peek
  throw (.fault ⟨problem token.lexeme.name, token.start, some activity, some start⟩)

/-- A scalar of which nothing is written. -/
def empty (mark : Mark) : Node :=
  .scalar Kind.null.tag "" mark

/-- A number for a collection that begins. -/
def number : Composing Nat := do
  let reader ← get
  set { reader with collections := reader.collections + 1 }
  return reader.collections

/-- Lets a name stand for a node, which may be one that has only begun. -/
def name (anchor : Option String) (node : Node) : Composing Unit :=
  match anchor with
  | none => pure ()
  | some anchor =>
    modify fun reader =>
      { reader with anchors := (anchor, node) :: reader.anchors.filter (·.1 ≠ anchor) }

/-- Lets a name stand for a collection that has come to its end, wherever it comes again. -/
def nameWhole (anchor : Option String) (number : Nat) (whole : Node) : Composing Unit := do
  if anchor.isSome then
    modify fun reader =>
      { reader with
        anchors := reader.anchors.map fun entry => (entry.1, Node.close number whole entry.2) }

/-- The anchor and the tag before a node, with the places of both and of the first. -/
structure Properties where
  anchor : Option String := none
  tag : Option (Option String × String) := none
  start : Option Mark := none
  tagMark : Mark := {}

/-- Anchor and tag in either order, each at most once; the fuel is their number. -/
def properties (sofar : Properties) : Nat → Composing Properties
  | 0 => return sofar
  | fuel + 1 => do
    let token ← peek
    let start := some (sofar.start.getD token.start)
    match token.lexeme, sofar.anchor, sofar.tag with
    | .anchor name, none, _ => do
      let _ ← take
      properties { sofar with anchor := some name, start } fuel
    | .tag handle suffix, _, none => do
      let _ ← take
      properties { sofar with tag := some (handle, suffix), start, tagMark := token.start } fuel
    | _, _, _ => return sofar

/-- The tag that a handle and a suffix spell. -/
def wholeTag (start tagMark : Mark) (handle : Option String) (suffix : String) :
    Composing String := do
  match handle with
  | none => return suffix
  | some handle =>
    match (← get).handles.find? fun entry => entry.1 = handle with
    | some (_, stem) => return stem ++ suffix
    | none =>
      throw (.fault ⟨.unknownHandle handle, tagMark, some .node, some start⟩)

/-- The tag that leaves the kind to the form of a node. -/
def openTag : String := "!"

/-- The tag of a scalar: given, by its form if it is plain, or that of texts. -/
def scalarTag (tag : Option String) (content : String) (isPlain : Bool) : String :=
  match tag with
  | some tag => if tag = openTag then (kindOfText content).tag else tag
  | none => if isPlain then (kindOfText content).tag else Kind.text.tag

/-- The tag of a collection. -/
def collectionTag (tag : Option String) (kind : Kind) : String :=
  match tag with
  | some tag => if tag = openTag then kind.tag else tag
  | none => kind.tag

/-- Tokens before which a value or key inside a block mapping is missing. -/
def endsBlockPart : Lexeme → Bool
  | .key | .value | .blockEnd => true
  | _ => false

/-- Tokens before which a value inside brackets is missing. -/
def endsFlowPart (closing : Lexeme) (lexeme : Lexeme) : Bool :=
  lexeme = .flowEntry || lexeme = closing

/-- Refuses an anchor whose name is taken. -/
def checkAnchor (anchor : Option String) (start : Mark) : Composing Unit := do
  let some name := anchor | return
  match (← get).anchors.find? fun entry => entry.1 = name with
  | some (_, first) =>
    throw (.fault ⟨.secondOccurrence, start, some (.firstOccurrence name), some first.mark⟩)
  | none => pure ()

/-- Where a node stands: which forms it may have there. -/
inductive Position where
  | flow
  | block
  /-- After a key sign or a colon a list may begin in the column of its mapping. -/
  | blockOrList
deriving DecidableEq

mutual
/-- The node that comes next; the fuel bounds the number of steps. -/
def node (position : Position) : Nat → Composing Node
  | 0 => return empty {}
  | fuel + 1 => do
    let first ← peek
    if let .aliasOf name := first.lexeme then
      let _ ← take
      match (← get).anchors.find? fun entry => entry.1 = name with
      | some (_, named) => return named
      | none => throw (.fault ⟨.unknownAlias name, first.start, none, none⟩)
    let given ← properties {} 2
    let start := given.start.getD first.start
    let tag ← match given.tag with
      | some (handle, suffix) => some <$> wholeTag start given.tagMark handle suffix
      | none => pure none
    let token ← peek
    let sequence (read : Composing (List Node)) : Composing Node := do
      checkAnchor given.anchor start
      let tag := collectionTag tag .sequence
      let number ← number
      name given.anchor (.again number tag "sequence" start)
      let whole := Node.sequence number tag (← read) start
      nameWhole given.anchor number whole
      return whole
    let mapping (read : Composing (List (Node × Node))) : Composing Node := do
      checkAnchor given.anchor start
      let tag := collectionTag tag .mapping
      let number ← number
      name given.anchor (.again number tag "mapping" start)
      let whole := Node.mapping number tag (← read) start
      nameWhole given.anchor number whole
      return whole
    let scalar (content : String) (isPlain : Bool) : Composing Node := do
      checkAnchor given.anchor start
      let whole := Node.scalar (scalarTag tag content isPlain) content start
      name given.anchor whole
      return whole
    match position, token.lexeme with
    | .blockOrList, .blockEntry => sequence (blockItems none fuel)
    | _, .scalar content isPlain => do
      let _ ← take
      scalar content isPlain
    | _, .flowSequenceStart => sequence do
      let _ ← take
      flowItems token.start true fuel
    | _, .flowMappingStart => mapping do
      let _ ← take
      flowEntries token.start true fuel
    | .block, .blockSequenceStart | .blockOrList, .blockSequenceStart => sequence do
      let _ ← take
      blockItems (some token.start) fuel
    | .block, .blockMappingStart | .blockOrList, .blockMappingStart => mapping do
      let _ ← take
      blockEntries token.start fuel
    | _, _ =>
      -- An empty scalar has no form of its own where its tag is given.
      if given.anchor.isSome || given.tag.isSome then scalar "" true
      else unfit (if position = .flow then .flowNode else .blockNode) start .noContent

/-- The items of a block list; one that began with its own token also ends with one. -/
def blockItems (start : Option Mark) : Nat → Composing (List Node)
  | 0 => return []
  | fuel + 1 => do
    if ← isNext (· = .blockEntry) then
      let entry ← take
      -- Keys end an empty entry only where the list has no token of its own.
      let isMissing ← isNext fun lexeme =>
        lexeme = .blockEntry || lexeme = .blockEnd ||
          (start.isNone && (lexeme = .key || lexeme = .value))
      let item ← if isMissing then pure (empty entry.stop) else node .block fuel
      return item :: (← blockItems start fuel)
    match start with
    | none => return []
    | some start =>
      if !(← isNext (· = .blockEnd)) then unfit .blockCollection start .noBlockEnd
      let _ ← take
      return []

/-- The entries of a block mapping. -/
def blockEntries (start : Mark) : Nat → Composing (List (Node × Node))
  | 0 => return []
  | fuel + 1 => do
    if ← isNext (· = .key) then
      let sign ← take
      let key ←
        if ← isNext endsBlockPart then pure (empty sign.stop) else node .blockOrList fuel
      let value ← blockValue fuel
      return (key, value) :: (← blockEntries start fuel)
    if !(← isNext (· = .blockEnd)) then unfit .blockMapping start .noBlockEnd
    let _ ← take
    return []

/-- The value of a block mapping's entry, which may be missing. -/
def blockValue : Nat → Composing Node
  | 0 => return empty {}
  | fuel + 1 => do
    if ← isNext (· = .value) then
      let sign ← take
      if ← isNext endsBlockPart then return empty sign.stop
      node .blockOrList fuel
    else return empty (← peek).start

/-- The items of a list in brackets; a single entry may stand for a mapping of its own. -/
def flowItems (start : Mark) (isFirst : Bool) : Nat → Composing (List Node)
  | 0 => return []
  | fuel + 1 => do
    if !(← isNext (· = .flowSequenceEnd)) then
      if !isFirst then
        if !(← isNext (· = .flowEntry)) then
          unfit .flowSequence start (.noFlowSeparator ']')
        let _ ← take
      if ← isNext (· = .key) then
        let sign ← take
        let key ← flowPart .flowSequenceEnd sign.stop fuel
        let value ← flowValue .flowSequenceEnd fuel
        -- A key in brackets makes a mapping of one entry.
        let item := Node.mapping (← number) Kind.mapping.tag [(key, value)] sign.start
        return item :: (← flowItems start false fuel)
      if !(← isNext (· = .flowSequenceEnd)) then
        let item ← node .flow fuel
        return item :: (← flowItems start false fuel)
    let _ ← take
    return []

/-- The entries of a mapping in braces; a node without a colon is a key without a value. -/
def flowEntries (start : Mark) (isFirst : Bool) : Nat → Composing (List (Node × Node))
  | 0 => return []
  | fuel + 1 => do
    if !(← isNext (· = .flowMappingEnd)) then
      if !isFirst then
        if !(← isNext (· = .flowEntry)) then
          unfit .flowMapping start (.noFlowSeparator '\x7d')
        let _ ← take
      if ← isNext (· = .key) then
        let sign ← take
        let key ← flowPart .flowMappingEnd sign.stop fuel
        let value ← flowValue .flowMappingEnd fuel
        return (key, value) :: (← flowEntries start false fuel)
      if !(← isNext (· = .flowMappingEnd)) then
        let key ← node .flow fuel
        -- With a colon the scanner would have marked the node as a key.
        let value := empty (← peek).start
        return (key, value) :: (← flowEntries start false fuel)
    let _ ← take
    return []

/-- The key of an entry in brackets or braces, which may be missing. -/
def flowPart (closing : Lexeme) (mark : Mark) : Nat → Composing Node
  | 0 => return empty mark
  | fuel + 1 => do
    if ← isNext fun lexeme => lexeme = .value || endsFlowPart closing lexeme then
      return empty mark
    node .flow fuel

/-- The value of an entry in brackets or braces, which may be missing. -/
def flowValue (closing : Lexeme) : Nat → Composing Node
  | 0 => return empty {}
  | fuel + 1 => do
    if ← isNext (· = .value) then
      let sign ← take
      if ← isNext (endsFlowPart closing) then return empty sign.stop
      node .flow fuel
    else return empty (← peek).start
end

/-- Directives before a document: a version at most once, and handles that differ. -/
def directives (hasVersion : Bool) (handles : List (String × String)) :
    Nat → Composing (List (String × String))
  | 0 => return handles
  | fuel + 1 => do
    let token ← peek
    let fault (problem : Problem) : Failure := .fault ⟨problem, token.start, none, none⟩
    match token.lexeme with
    | .directive directive => do
      let _ ← take
      match directive with
      | .version major =>
        if hasVersion then throw (fault .repeatedVersion)
        -- The minor version makes no difference.
        if major ≠ 1 then throw (fault .foreignVersion)
        directives true handles fuel
      | .handle handle stem =>
        if handles.any fun entry => entry.1 = handle then throw (fault (.repeatedHandle handle))
        directives hasVersion (handles ++ [(handle, stem)]) fuel
      | .other => directives hasVersion handles fuel
    | _ => return handles

/-- The handles that need no directive. -/
def standardHandles : List (String × String) :=
  [("!", "!"), ("!!", standardStem)]

/-- Moves behind ends of documents. -/
def skipDocumentEnds : Nat → Composing Unit
  | 0 => pure ()
  | fuel + 1 => do
    if ← isNext (· = .documentEnd) then
      let _ ← take
      skipDocumentEnds fuel

/-- Tokens that begin a document with a sign of its own, or end the text. -/
def startsExplicitly : Lexeme → Bool
  | .directive _ | .documentStart | .streamEnd => true
  | _ => false

/-- Tokens before which a document has no content. -/
def endsDocument (lexeme : Lexeme) : Bool :=
  startsExplicitly lexeme || lexeme = .documentEnd

/-- The start of a document that has a sign; none where the text ends. -/
def explicitStart (fuel : Nat) : Composing (Option Mark) := do
  skipDocumentEnds fuel
  let first ← peek
  if first.lexeme = .streamEnd then return none
  let handles ← directives false [] fuel
  let token ← peek
  if token.lexeme ≠ .documentStart then
    throw (.fault ⟨.noDocumentStart token.lexeme.name, token.start, none, none⟩)
  let _ ← take
  modify fun reader => { reader with handles := handles ++ standardHandles }
  return some first.start

/-- The content of a document whose sign has been passed. -/
def content (fuel : Nat) : Composing Node := do
  let token ← peek
  if endsDocument token.lexeme then return empty token.start
  node .block fuel

/-- The first document, if there is one. -/
def firstDocument (fuel : Nat) : Composing (Option Node) := do
  if startsExplicitly (← peek).lexeme then
    match ← explicitStart fuel with
    | none => return none
    | some _ => return some (← content fuel)
  else
    modify fun reader => { reader with handles := standardHandles }
    return some (← node .block fuel)

/-- The only document of a text; a second one is a fault. -/
def onlyDocument (fuel : Nat) : Composing (Option Node) := do
  let _ ← take
  match ← firstDocument fuel with
  | none => return none
  | some root =>
    if ← isNext (· = .documentEnd) then
      let _ ← take
    match ← explicitStart fuel with
    | none => return some root
    | some second =>
      throw (.fault ⟨.secondDocument, second, some .singleDocument, some root.mark⟩)

end Composing

/-- The node that a text describes, if it describes one. -/
def nodeOf (text : List Char) : Except Failure (Option Node) :=
  let found := tokens text
  (Composing.onlyDocument (4 * found.1.length + 8)).run' ⟨found.1, found.2, [], [], 0⟩

end AppSync.Yaml
