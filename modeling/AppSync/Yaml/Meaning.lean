import AppSync.Text.Base64
import AppSync.Text.Printable
import AppSync.Text.Quoted
import AppSync.Yaml.Document

/-!
Values of nodes. The nodes of one depth are given their values before any deeper one, so of
several failures the least deep one counts, and the first among those.
-/

namespace AppSync.Yaml

/-- A value with the numbers of collections that are part of themselves, and failures. -/
structure Built where
  value : Value
  /-- Failures with the depths at which they are met, in order of the document. -/
  failures : List (Nat × Failure) := []
  /-- Numbers that come again outside of their collections. -/
  again : List Nat := []
  /-- Numbers of collections inside that are part of themselves. -/
  recurrent : List Nat := []

namespace Built

/-- A single failure in place of a value. -/
def fail (depth : Nat) (failure : Failure) : Built := { value := .null, failures := [(depth, failure)] }

/-- A value of parts. -/
def ofParts (value : Value) (parts : List Built) : Built where
  value := value
  failures := parts.flatMap failures
  again := parts.flatMap again
  recurrent := parts.flatMap recurrent

/-- A collection under its number, by which it is known where it is part of itself. -/
def numbered (number : Nat) (built : Built) : Built :=
  if built.again.isEmpty && !built.recurrent.contains number then built
  else
    { built with
      value := .recurrent number built.value
      again := built.again.filter (· ≠ number)
      recurrent := number :: built.recurrent }

/-- The failure that counts. -/
def failure? (built : Built) : Option Failure :=
  match (built.failures.map (·.1)).min? with
  | none => none
  | some least => (built.failures.find? fun failure => failure.1 = least).map (·.2)

end Built

/-- A fault at a node, without an activity. -/
def faultAt (problem : Problem) (node : Node) : Failure :=
  .fault ⟨problem, node.mark, none, none⟩

/-- A fault at a node that is met while an enclosing one is given its value. -/
def faultWithin (activity : Activity) (outer : Mark) (problem : Problem) (mark : Mark) : Failure :=
  .fault ⟨problem, mark, some activity, some outer⟩

/-- The key that stands for the text of its mapping. -/
def isValueKey (node : Node) : Bool :=
  node.tag = Kind.value.tag

/-- The content of a scalar, or that behind the special key of a mapping; the fuel bounds nesting. -/
def contentOf : Nat → Node → Except Failure String
  | 0, node => .error (faultAt (.otherNode "scalar" node.form) node)
  | fuel + 1, node =>
    match node with
    | .scalar _ content _ => .ok content
    | .mapping _ _ entries _ =>
      match entries.find? fun entry => isValueKey entry.1 with
      | some (_, value) => contentOf fuel value
      | none => .error (faultAt (.otherNode "scalar" node.form) node)
    | other => .error (faultAt (.otherNode "scalar" other.form) other)

/-- The truth value of a word that is one or tagged as one. -/
def truthValue (word : String) : Except Accident Scalar :=
  match String.ofList (Text.lower word.toList) with
  | "yes" | "true" | "on" => .ok (.bool true)
  | "no" | "false" | "off" => .ok (.bool false)
  | other => .error (.truth other)

/-- The bytes of a text tagged as such. -/
def binaryValue (node : Node) (content : String) : Except Failure Scalar :=
  let text := content.toList
  match Text.unencodable? "ascii" "ordinal not in range(128)" (·.toNat < 0x80) text with
  | some message => .error (faultAt (.notAscii message) node)
  | none =>
    match Base64.decode text with
    | .ok bytes => .ok (.bytes bytes)
    | .error fault => .error (faultAt (.notBase64 fault.message) node)

/-- The value of a content as a scalar of a kind. -/
def scalarValue (kind : Kind) (node : Node) (content : String) : Except Failure Scalar :=
  let text := content.toList
  match kind with
  | .null => .ok .null
  | .bool => (truthValue content).mapError .accident
  | .int => ((integerValue text).map Scalar.int).mapError .accident
  | .float => ((decimalValue text).map Scalar.float).mapError .accident
  | .binary => binaryValue node content
  | .timestamp =>
    match node with
    | .scalar .. => (momentValue (withoutFinalBreak text)).mapError .accident
    | _ => .error (.accident .mappedMoment)
  | _ => .ok (.text content)

/-- Kinds whose nodes have a scalar value. -/
def Kind.isScalar : Kind → Bool
  | .null | .bool | .int | .float | .binary | .timestamp | .text => true
  | _ => false

/-- The tag of a key, that of a text where its sign would make it stand for its mapping. -/
def plainKeyTag (tag : String) : String :=
  if tag = Kind.value.tag then Kind.text.tag else tag

/-- A key that does not stand for its mapping. -/
def asPlainKey : Node → Node
  | .scalar tag content mark => .scalar (plainKeyTag tag) content mark
  | .sequence number tag items mark => .sequence number (plainKeyTag tag) items mark
  | .mapping number tag entries mark => .mapping number (plainKeyTag tag) entries mark
  | .again number tag form mark => .again number (plainKeyTag tag) form mark

mutual
/-- Entries with those of merged mappings in front; the fuel bounds nesting. -/
def merged (outer : Mark) : Nat → List (Node × Node) → Except Failure (List (Node × Node))
  | 0, entries => .ok entries
  | fuel + 1, entries => do
    let isMerge (entry : Node × Node) : Bool := entry.1.tag = Kind.merge.tag
    let front ← (entries.filter isMerge).mapM fun entry => mergedValue outer fuel entry.2
    let own := (entries.filter fun entry => !isMerge entry).map fun entry =>
      (asPlainKey entry.1, entry.2)
    return front.flatten ++ own

/-- The entries of a mapping that is merged, or of several, of which the first come last. -/
def mergedValue (outer : Mark) : Nat → Node → Except Failure (List (Node × Node))
  | 0, _ => .ok []
  | fuel + 1, value =>
    match value with
    | .mapping _ _ entries mark => merged mark fuel entries
    | .sequence _ _ items _ => do
      let parts ← items.mapM fun item =>
        match item with
        | .mapping _ _ entries mark => merged mark fuel entries
        | .again .. => .ok []
        | other =>
          .error (faultWithin .mappingValue outer (.unmergeableItem other.form) other.mark)
      return parts.reverse.flatten
    -- What comes again is there already.
    | .again .. => .ok []
    | other => .error (faultWithin .mappingValue outer (.unmergeable other.form) other.mark)
end

/-- A key that can be looked up; undefined numbers of their own are told apart by their places. -/
structure Key where
  scalar : Scalar
  place : Option Nat
deriving DecidableEq

/-- Whether two keys are the same. -/
def Key.same (a b : Key) : Bool :=
  a.place = b.place && a.scalar.sameKey b.scalar

/-- Whether a node is written with the sign that stands for the same undefined number everywhere. -/
def hasUndefinedSign (node : Node) : Bool :=
  match contentOf (node.height + 1) node with
  | .ok content => isUndefinedSign content.toList
  | .error _ => false

/-- The key that a value is, unless it is a collection. -/
def keyOf? (node : Node) : Value → Option Key
  | .scalar value =>
    let isOwn := value == .float .nan && !hasUndefinedSign node
    some ⟨value, if isOwn then some node.mark.index else none⟩
  | _ => none

/-- Sets the value at a key: the same key keeps its place and its writing. -/
def setKey (key : Key) (value : Value) : List (Key × Value) → List (Key × Value)
  | [] => [(key, value)]
  | (other, old) :: rest =>
    if other.same key then (other, value) :: rest else (other, old) :: setKey key value rest

/-- Entries in order of writing, the same key keeping its first place and its last value. -/
def collectKeys (entries : List (Key × Value)) : Entries :=
  (entries.foldl (fun collected entry => setKey entry.1 entry.2 collected) []).map fun entry =>
    (entry.1.scalar, entry.2)

/-- Entries of a mapping under construction, with what belongs to their keys and values. -/
structure BuiltEntries where
  entries : List (Key × Value)
  parts : List Built

mutual
/-- The value of a node at a depth; the fuel bounds nesting. -/
def build : Nat → Nat → Node → Built
  | 0, _, _ => { value := .null }
  | fuel + 1, depth, node =>
    match node with
    | .again number .. => { value := .again number, again := [number] }
    | node =>
      match Kind.ofTag? node.tag with
      | none => .fail depth (faultAt (.unknownTag node.tag) node)
      -- Merged mappings and default values mean something only inside of mappings.
      | some .merge => .fail depth (faultAt (.unknownTag node.tag) node)
      | some .value => .fail depth (faultAt (.unknownTag node.tag) node)
      | some .sequence =>
        match node with
        | .sequence number _ items _ =>
          let built := items.map (build fuel (depth + 1))
          (Built.ofParts (.list (built.map Built.value)) built).numbered number
        | other => .fail (depth + 1) (faultAt (.otherNode "sequence" other.form) other)
      | some .mapping => buildMapping .mapping fuel (depth + 1) node
      | some .set => buildMapping (fun entries => .set (entries.map (·.1))) fuel (depth + 1) node
      | some .orderedMap => buildPairs .orderedMapValue fuel (depth + 1) node
      | some .pairs => buildPairs .pairsValue fuel (depth + 1) node
      | some kind =>
        match (contentOf (fuel + 1) node).bind (scalarValue kind node) with
        | .ok value => { value := .scalar value }
        | .error failure => .fail depth failure

/-- What the entries of a mapping make, merged ones among them, with values at a depth. -/
def buildMapping (make : Entries → Value) : Nat → Nat → Node → Built
  | 0, _, _ => { value := make [] }
  | fuel + 1, depth, node =>
    match node with
    | .mapping number _ entries mark =>
      match merged mark (2 * node.height) entries with
      | .error failure => .fail depth failure
      | .ok entries =>
        -- An entry without a usable key is left out and has its failure among its parts.
        let built := entries.map fun entry =>
          let key := build fuel depth entry.1
          let value := build fuel depth entry.2
          match keyOf? entry.1 key.value with
          | some found => (⟨[(found, value.value)], [key, value]⟩ : BuiltEntries)
          | none =>
            ⟨[], [key,
              .fail depth (faultWithin .mappingValue mark .unhashableKey entry.1.mark)]⟩
        (Built.ofParts (make (collectKeys (built.flatMap BuiltEntries.entries)))
          (built.flatMap BuiltEntries.parts)).numbered number
    | other => .fail depth (faultAt (.otherNode "mapping" other.form) other)

/-- The pairs of a list of mappings with one entry each, with values at a depth. -/
def buildPairs (activity : Activity) : Nat → Nat → Node → Built
  | 0, _, _ => { value := .null }
  | fuel + 1, depth, node =>
    match node with
    | .sequence number _ items outer =>
      let built := items.map fun item =>
        match item with
        | .mapping _ _ [(key, value)] _ =>
          let key := build fuel depth key
          let value := build fuel depth value
          Built.ofParts (.pair key.value value.value) [key, value]
        | .mapping _ _ entries mark =>
          .fail depth (faultWithin activity outer (.manyPairs entries.length) mark)
        | other => .fail depth (faultWithin activity outer (.notPair other.form) other.mark)
      (Built.ofParts (.list (built.map Built.value)) built).numbered number
    | other => .fail depth (faultWithin activity other.mark (.notSequence other.form) other.mark)
end

/-- Characters that a text can hold. -/
def isAcceptable (c : Char) : Bool :=
  c == '\t' || c == '\n' || c == '\r' || (' ' ≤ c && c ≤ '~') || c == '\u0085' ||
    ('\u00a0' ≤ c && c ≤ '\ufffd') || 0x10000 ≤ c.toNat

/-- The value that a text describes; a text without a document describes null. -/
def valueOf (text : List Char) : Except Failure Value := do
  match text.find? fun c => !isAcceptable c with
  | some c => throw (.unacceptable c (text.takeWhile isAcceptable).length)
  | none =>
    match ← nodeOf text with
    | none => return .null
    | some root =>
      let built := build (2 * root.height + 2) 0 root
      match built.failure? with
      | some failure => throw failure
      | none => return built.value

/-- What is reported of a character that a text cannot hold. -/
def unacceptableMessage (found : Char) (position : Nat) : String :=
  s!"unacceptable character #x{Text.hexAtLeast 4 found.toNat}: special characters are not " ++
    s!"allowed\n  in \"<unicode string>\", position {position}"

end AppSync.Yaml
