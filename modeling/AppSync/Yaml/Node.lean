import AppSync.Yaml.Fault
import AppSync.Yaml.Moment
import AppSync.Yaml.Number
import AppSync.Yaml.Token

/-! Nodes of a document, each with its tag, and the tags that plain scalars get by their form. -/

namespace AppSync.Yaml

/-- A node with its tag and the place where it begins; each collection has a number of its own. -/
inductive Node where
  | scalar (tag content : String) (mark : Mark)
  | sequence (number : Nat) (tag : String) (items : List Node) (mark : Mark)
  | mapping (number : Nat) (tag : String) (entries : List (Node × Node)) (mark : Mark)
  /-- The collection of a number again, inside of it. -/
  | again (number : Nat) (tag form : String) (mark : Mark)
deriving Inhabited

namespace Node

/-- The tag of a node. -/
def tag : Node → String
  | scalar tag .. => tag
  | sequence _ tag .. => tag
  | mapping _ tag .. => tag
  | again _ tag .. => tag

/-- The place where a node begins. -/
def mark : Node → Mark
  | scalar _ _ mark => mark
  | sequence _ _ _ mark => mark
  | mapping _ _ _ mark => mark
  | again _ _ _ mark => mark

/-- The word for the form of a node. -/
def form : Node → String
  | scalar .. => "scalar"
  | sequence .. => "sequence"
  | mapping .. => "mapping"
  | again _ _ form _ => form

mutual
/-- The number of nodes on the longest way down. -/
def height : Node → Nat
  | scalar .. => 1
  | sequence _ _ items _ => heightOfItems items + 1
  | mapping _ _ entries _ => heightOfEntries entries + 1
  | again .. => 1

/-- The height of the highest of several nodes. -/
def heightOfItems : List Node → Nat
  | [] => 0
  | item :: rest => max (height item) (heightOfItems rest)

/-- The height of the highest key or value. -/
def heightOfEntries : List (Node × Node) → Nat
  | [] => 0
  | (key, value) :: rest => max (max (height key) (height value)) (heightOfEntries rest)
end

mutual
/-- A node with a whole collection wherever it comes again. -/
def close (number : Nat) (whole : Node) : Node → Node
  | scalar tag content mark => scalar tag content mark
  | sequence other tag items mark =>
    if other = number then sequence other tag items mark
    else sequence other tag (closeItems number whole items) mark
  | mapping other tag entries mark =>
    if other = number then mapping other tag entries mark
    else mapping other tag (closeEntries number whole entries) mark
  | again other tag form mark => if other = number then whole else again other tag form mark

/-- Items with a whole collection wherever it comes again. -/
def closeItems (number : Nat) (whole : Node) : List Node → List Node
  | [] => []
  | item :: rest => close number whole item :: closeItems number whole rest

/-- Entries with a whole collection wherever it comes again. -/
def closeEntries (number : Nat) (whole : Node) : List (Node × Node) → List (Node × Node)
  | [] => []
  | (key, value) :: rest =>
    (close number whole key, close number whole value) :: closeEntries number whole rest
end

end Node

/-- What the short tag handle stands for. -/
def standardStem : String := "tag:yaml.org,2002:"

/-- The kinds of values that nodes of the standard tags have. -/
inductive Kind where
  | null
  | bool
  | int
  | float
  | binary
  | timestamp
  | orderedMap
  | pairs
  | set
  | text
  | sequence
  | mapping
  /-- A key whose values are merged into the mapping around it. -/
  | merge
  /-- A key that stands for the text of its mapping. -/
  | value
deriving DecidableEq

namespace Kind

/-- The end of the tag of a kind. -/
def word : Kind → String
  | null => "null"
  | bool => "bool"
  | int => "int"
  | float => "float"
  | binary => "binary"
  | timestamp => "timestamp"
  | orderedMap => "omap"
  | pairs => "pairs"
  | set => "set"
  | text => "str"
  | sequence => "seq"
  | mapping => "map"
  | merge => "merge"
  | value => "value"

/-- The tag of a kind. -/
def tag (kind : Kind) : String :=
  standardStem ++ kind.word

/-- Every kind. -/
def all : List Kind :=
  [null, bool, int, float, binary, timestamp, orderedMap, pairs, set, text, sequence, mapping,
    merge, value]

/-- The kind with a tag. -/
def ofTag? (tag : String) : Option Kind :=
  all.find? fun kind => kind.tag = tag

end Kind

/-- The words for truth values, each in small letters, with a capital, and in capitals. -/
def truthWords : List String :=
  ["yes", "Yes", "YES", "no", "No", "NO", "true", "True", "TRUE", "false", "False", "FALSE",
    "on", "On", "ON", "off", "Off", "OFF"]

/-- The words for null. -/
def nullWords : List String :=
  ["~", "null", "Null", "NULL"]

/-- A text without a line feed at its end. -/
def withoutFinalBreak (text : List Char) : List Char :=
  if text.getLast? = some '\n' then text.dropLast else text

/-- The kind that a scalar has by its form; a final line feed is overlooked. -/
def kindOfText (text : String) : Kind :=
  if text = "" then .null
  else
    let chars := withoutFinalBreak text.toList
    let word := String.ofList chars
    if truthWords.contains word then .bool
    else if isDecimal chars then .float
    else if isInteger chars then .int
    else if word = "<<" then .merge
    else if nullWords.contains word then .null
    else if isMoment chars then .timestamp
    else if word = "=" then .value
    else .text

end AppSync.Yaml
