import AppSync.Document.Reading
import AppSync.Json.Printer

/-! Declared source types, as an extractor describes them in no particular language. -/

namespace AppSync

/-- A source type: its qualified name without arguments, its type arguments and its shape. -/
structure Source where
  name : String
  arguments : List Source := []
  isCollection : Bool := false
  isDictionary : Bool := false
  isNullableWrapper : Bool := false
  isValueType : Option Bool := none
  nonNull : Bool := false
  scalarOverride : Option String := none
deriving Inhabited

namespace Source

/-- The last component of a qualified name. -/
def simpleNameOf (name : String) : String :=
  String.ofList (name.toList.reverse.takeWhile (· != '.')).reverse

/-- The name without its qualifiers. -/
def simpleName (source : Source) : String :=
  simpleNameOf source.name

/-- A type without the type arguments that its shape calls for. -/
structure NoArguments where
  name : String
deriving DecidableEq, Repr

/-- The sentence that states that arguments are missing. -/
def NoArguments.message (error : NoArguments) : String :=
  s!"Type '{error.name}' has no type arguments"

/-- The first type argument: the element, the underlying or the awaited type. -/
def inner (source : Source) : Except NoArguments Source :=
  match source.arguments with
  | [] => .error ⟨source.name⟩
  | first :: _ => .ok first

mutual
/-- The document form of a source type, with every field written out. -/
def toJson : Source → Json
  | ⟨name, arguments, collection, dictionary, wrapper, valueType, nonNull, override⟩ =>
    .object [
      ("name", .text name),
      ("type_arguments", .array (toJsonItems arguments)),
      ("is_collection", .bool collection),
      ("is_dictionary", .bool dictionary),
      ("is_nullable_wrapper", .bool wrapper),
      ("is_value_type", Json.ofOption .bool valueType),
      ("non_null", .bool nonNull),
      ("scalar_override", Json.ofText? override)]

/-- The document forms of type arguments. -/
def toJsonItems : List Source → List Json
  | [] => []
  | source :: rest => toJson source :: toJsonItems rest
end

/-- The text that stands for a source type in a cache. -/
def key (source : Source) : String :=
  source.toJson.compact Json.quoteUnicode

mutual
/-- The complaint about the first text in a source type that has halves of characters in it. -/
def unwritable? : Source → Option String
  | ⟨name, arguments, _, _, _, _, _, override⟩ =>
    match Text.unencodableHalves? name, unwritableItem? arguments with
    | some complaint, _ => some complaint
    | none, some complaint => some complaint
    | none, none => override.bind Text.unencodableHalves?

/-- The complaint about the first such text in several source types. -/
def unwritableItem? : List Source → Option String
  | [] => none
  | source :: rest =>
    match unwritable? source with
    | some complaint => some complaint
    | none => unwritableItem? rest
end

/-- Reads the fields of a source type, its type arguments in a given way; unknown keys do not count. -/
def readFields (readArguments : Value → Reading (List Source)) (entries : Entries) :
    Reading Source :=
  let flag (key : String) := Reading.optional key Reading.boolean false entries
  (Reading.required "name" Reading.text entries).map Source.mk
    |> Reading.give (Reading.optional "type_arguments" readArguments [] entries)
    |> Reading.give (flag "is_collection")
    |> Reading.give (flag "is_dictionary")
    |> Reading.give (flag "is_nullable_wrapper")
    |> Reading.give (Reading.optional "is_value_type" (Reading.nullable Reading.boolean) none entries)
    |> Reading.give (flag "non_null")
    |> Reading.give
      (Reading.optional "scalar_override" (Reading.nullable Reading.text) none entries)

/-- The greatest number of source types inside one another. -/
def depthLimit : Nat := 255

/-- The values around a value that is read, with those in it that are part of themselves. -/
def enclosing (around : List Nat) : Value → List Nat
  | .recurrent number _ => number :: around
  | _ => around

/-- Whether a value stands inside of itself. -/
def isAgain (around : List Nat) : Value → Bool
  | .recurrent number _ => around.contains number
  | _ => false

/-- Reads a source type that may have a number of others inside one another, itself included. -/
def readWithin (around : List Nat) : Nat → Value → Reading Source
  | 0, value => Reading.fail (if isAgain around value then .cyclic else .tooDeep)
  | room + 1, value =>
    if isAgain around value then Reading.fail .cyclic
    else do
      let entries ← Reading.record "SourceType" value
      readFields (Reading.tuple (readWithin (enclosing around value) room)) entries

/-- Reads a source type. -/
def read (value : Value) : Reading Source :=
  readWithin [] depthLimit value

/-- A bare text names a source type; anything else has to describe one. -/
def ofValue : Value → Reading Source
  | .scalar (.text name) => .ok { name }
  | value => read value

end Source

end AppSync
