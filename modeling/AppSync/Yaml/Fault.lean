import AppSync.Accident
import AppSync.Yaml.Mark

/-! What can be wrong with a YAML text, and where. -/

namespace AppSync.Yaml

/-- What was being read when a fault was met. -/
inductive Activity where
  | token
  | simpleKey
  | directive
  | directivePart
  | anchor
  | aliasing
  | tag
  | tagPart
  | blockScalar
  | quotedScalar
  | doubleQuotedScalar
  | node
  | blockNode
  | flowNode
  | blockCollection
  | blockMapping
  | flowSequence
  | flowMapping
  | singleDocument
  | firstOccurrence (anchor : String)
  | mappingValue
  | orderedMapValue
  | pairsValue
deriving DecidableEq, Repr

/-- The words for an activity. -/
def Activity.text : Activity → String
  | token => "while scanning for the next token"
  | simpleKey => "while scanning a simple key"
  | directive => "while scanning a directive"
  | directivePart => "while parsing a directive"
  | anchor => "while scanning an anchor"
  | aliasing => "while scanning an alias"
  | tag => "while scanning a tag"
  | tagPart => "while parsing a tag"
  | blockScalar => "while scanning a block scalar"
  | quotedScalar => "while scanning a quoted scalar"
  | doubleQuotedScalar => "while scanning a double-quoted scalar"
  | node => "while parsing a node"
  | blockNode => "while parsing a block node"
  | flowNode => "while parsing a flow node"
  | blockCollection => "while parsing a block collection"
  | blockMapping => "while parsing a block mapping"
  | flowSequence => "while parsing a flow sequence"
  | flowMapping => "while parsing a flow mapping"
  | singleDocument => "expected a single document in the stream"
  | firstOccurrence name => "found duplicate anchor " ++ Text.quoted name ++ "; first occurrence"
  | mappingValue => "while constructing a mapping"
  | orderedMapValue => "while constructing an ordered map"
  | pairsValue => "while constructing pairs"

/-- What a character was expected to be. -/
inductive Expected where
  | letterOrDigit
  | digit
  | digitOrPoint
  | digitOrBlank
  | blank
  | commentOrBreak
  | exclamation
  | closingAngle
  | uri
  | uriEscape
  | escape (digits : Nat)
  | blockIndicators
deriving DecidableEq, Repr

/-- The words for what was expected. -/
def Expected.text : Expected → String
  | letterOrDigit => "alphabetic or numeric character"
  | digit => "a digit"
  | digitOrPoint => "a digit or '.'"
  | digitOrBlank => "a digit or ' '"
  | blank => "' '"
  | commentOrBreak => "a comment or a line break"
  | exclamation => "'!'"
  | closingAngle => "'>'"
  | uri => "URI"
  | uriEscape => "URI escape sequence of 2 hexadecimal numbers"
  | escape digits => s!"escape sequence of {digits} hexadecimal numbers"
  | blockIndicators => "chomping or indentation indicators"

/-- What is wrong. -/
inductive Problem where
  | strayCharacter (found : Char)
  | missingColon
  | sequenceNotAllowed
  | keyNotAllowed
  | valueNotAllowed
  | unexpected (expected : Expected) (found : Char)
  | zeroIndentation
  | unexpectedEnd
  | unexpectedSeparator
  | unknownEscape (found : Char)
  | undecodable (error : Utf8.Error)
  | repeatedVersion
  | foreignVersion
  | repeatedHandle (handle : String)
  | unknownHandle (handle : String)
  | noDocumentStart (token : String)
  | noContent (token : String)
  | noBlockEnd (token : String)
  | noFlowSeparator (closing : Char) (token : String)
  | unknownAlias (name : String)
  | secondOccurrence
  | secondDocument
  | unknownTag (tag : String)
  | unhashableKey
  | unmergeable (found : String)
  | unmergeableItem (found : String)
  | otherNode (expected found : String)
  | notSequence (found : String)
  | notPair (found : String)
  | manyPairs (count : Nat)
  | notAscii (message : String)
  | notBase64 (message : String)
deriving DecidableEq, Repr

/-- The sentence that states a problem. -/
def Problem.text : Problem → String
  | strayCharacter found =>
    "found character " ++ Text.quoted found.toString ++ " that cannot start any token"
  | missingColon => "could not find expected ':'"
  | sequenceNotAllowed => "sequence entries are not allowed here"
  | keyNotAllowed => "mapping keys are not allowed here"
  | valueNotAllowed => "mapping values are not allowed here"
  | unexpected expected found =>
    "expected " ++ expected.text ++ ", but found " ++ Text.quoted found.toString
  | zeroIndentation => "expected indentation indicator in the range 1-9, but found 0"
  | unexpectedEnd => "found unexpected end of stream"
  | unexpectedSeparator => "found unexpected document separator"
  | unknownEscape found => "found unknown escape character " ++ Text.quoted found.toString
  | undecodable error => error.message
  | repeatedVersion => "found duplicate YAML directive"
  | foreignVersion => "found incompatible YAML document (version 1.* is required)"
  | repeatedHandle handle => "duplicate tag handle " ++ Text.quoted handle
  | unknownHandle handle => "found undefined tag handle " ++ Text.quoted handle
  | noDocumentStart token => "expected '<document start>', but found " ++ Text.quoted token
  | noContent token => "expected the node content, but found " ++ Text.quoted token
  | noBlockEnd token => "expected <block end>, but found " ++ Text.quoted token
  | noFlowSeparator closing token =>
    "expected ',' or '" ++ closing.toString ++ "', but got " ++ Text.quoted token
  | unknownAlias name => "found undefined alias " ++ Text.quoted name
  | secondOccurrence => "second occurrence"
  | secondDocument => "but found another document"
  | unknownTag tag => "could not determine a constructor for the tag " ++ Text.quoted tag
  | unhashableKey => "found unhashable key"
  | unmergeable found =>
    "expected a mapping or list of mappings for merging, but found " ++ found
  | unmergeableItem found => "expected a mapping for merging, but found " ++ found
  | otherNode expected found => s!"expected a {expected} node, but found {found}"
  | notSequence found => "expected a sequence, but found " ++ found
  | notPair found => "expected a mapping of length 1, but found " ++ found
  | manyPairs count => s!"expected a single mapping item, but found {count} items"
  | notAscii message => "failed to convert base64 data into ascii: " ++ message
  | notBase64 message => "failed to decode base64 data: " ++ message

/-- A problem at a place, and what was being read from which place on. -/
structure Fault where
  problem : Problem
  mark : Mark
  activity : Option Activity := none
  start : Option Mark := none
deriving DecidableEq, Repr

/-- The activity, its place unless it is that of the problem, the problem and its place. -/
def Fault.message (text : List Char) (fault : Fault) : String :=
  let activity := match fault.activity with
    | some activity => [activity.text]
    | none => []
  let start := match fault.start with
    | some start =>
      if start.line = fault.mark.line ∧ start.column = fault.mark.column then []
      else [start.shown text]
    | none => []
  String.intercalate "\n" (activity ++ start ++ [fault.problem.text, fault.mark.shown text])

/-- Why a text has no value. -/
inductive Failure where
  /-- A character that a text cannot hold, and where it stands. -/
  | unacceptable (found : Char) (position : Nat)
  | fault (fault : Fault)
  | accident (accident : Accident)
deriving DecidableEq, Repr

end AppSync.Yaml
