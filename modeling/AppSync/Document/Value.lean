import AppSync.Calendar.Basic
import AppSync.Json.Basic
import AppSync.Number.Shortest
import AppSync.Number.Written

/-! Values of documents and settings: what YAML, JSON and TOML texts can hold. -/

namespace AppSync

/-- A value without parts; these are the ones that may be keys of a mapping. -/
inductive Scalar where
  | null
  | bool (value : Bool)
  | int (value : Int)
  | float (value : Binary64)
  | text (value : String)
  | date (value : Date)
  | time (value : Clock)
  | moment (value : Moment)
  | bytes (value : List UInt8)
deriving DecidableEq, Inhabited

/-- A value of a document; the keys of a mapping stand in order of first writing. -/
inductive Value where
  | scalar (value : Scalar)
  | list (items : List Value)
  | mapping (entries : List (Scalar × Value))
  | set (members : List Scalar)
  | pair (key value : Value)
  /-- A collection that is part of itself, under a number. -/
  | recurrent (number : Nat) (content : Value)
  /-- The collection of a number again, inside of it. -/
  | again (number : Nat)
deriving Inhabited

namespace Scalar

/-- The number that a scalar denotes; truth values count as one and zero. -/
def number? : Scalar → Option (Int × Nat)
  | bool value => some (if value then 1 else 0, 1)
  | int value => some (value, 1)
  | float value => value.ratio?
  | _ => none

/-- Equality of keys: numbers compare by value whatever their kind, moments by the instant. -/
def sameKey (a b : Scalar) : Bool :=
  match a, b with
  | float (.infinite s), float (.infinite t) => s == t
  | moment m, moment n =>
    match m.offset, n.offset with
    | some _, some _ =>
      Calendar.instant m == Calendar.instant n && m.clock.microsecond == n.clock.microsecond
    | none, none => m == n
    | _, _ => false
  | _, _ =>
    match number? a, number? b with
    | some x, some y => x.1 * y.2 == y.1 * x.2
    | none, none => a == b
    | _, _ => false

/-- The name of a scalar's type in messages. -/
def typeName : Scalar → String
  | null => "NoneType"
  | bool _ => "bool"
  | int _ => "int"
  | float _ => "float"
  | text _ => "str"
  | date _ => "date"
  | time _ => "time"
  | moment _ => "datetime"
  | bytes _ => "bytes"

/-- A truth value for scalars: null, false, zeros and empty texts count as false. -/
def isTruthy : Scalar → Bool
  | null => false
  | bool value => value
  | int value => value != 0
  | float value => !(value.same (.zero false))
  | text value => value != ""
  | bytes value => !value.isEmpty
  | _ => true

/-- Whether a scalar is an integer with too many digits to be written. -/
def isOverlong : Scalar → Bool
  | int value => Number.isOverlong value
  | _ => false

end Scalar

namespace Value

/-- The name of a value's type in messages. -/
def typeName : Value → String
  | scalar value => value.typeName
  | list _ => "list"
  | mapping _ => "dict"
  | set _ => "set"
  | pair .. => "tuple"
  | recurrent _ content => content.typeName
  | again _ => "list"

/-- The name of a value's type together with the module that defines it. -/
def qualifiedTypeName : Value → String
  | scalar (.date _) => "datetime.date"
  | scalar (.time _) => "datetime.time"
  | scalar (.moment _) => "datetime.datetime"
  | value => value.typeName

/-- Empty collections and false scalars count as false. -/
def isTruthy : Value → Bool
  | scalar value => value.isTruthy
  | list items => !items.isEmpty
  | mapping entries => !entries.isEmpty
  | set members => !members.isEmpty
  | pair .. => true
  | recurrent _ content => content.isTruthy
  | again _ => true

mutual
/-- A value with another one in the places of a collection that comes again. -/
def replaceAgain (number : Nat) (whole : Value) : Value → Value
  | scalar value => scalar value
  | list items => list (replaceInItems number whole items)
  | mapping entries => mapping (replaceInEntries number whole entries)
  | set members => set members
  | pair key value => pair (replaceAgain number whole key) (replaceAgain number whole value)
  | recurrent other content =>
    if other = number then recurrent other content
    else recurrent other (replaceAgain number whole content)
  | again other => if other = number then whole else again other

/-- Items with a value in the places of a collection that comes again. -/
def replaceInItems (number : Nat) (whole : Value) : List Value → List Value
  | [] => []
  | item :: rest => replaceAgain number whole item :: replaceInItems number whole rest

/-- Entries with a value in the places of a collection that comes again. -/
def replaceInEntries (number : Nat) (whole : Value) :
    List (Scalar × Value) → List (Scalar × Value)
  | [] => []
  | (key, value) :: rest =>
    (key, replaceAgain number whole value) :: replaceInEntries number whole rest
end

/-- The form of a value: a collection that is part of itself is unfolded once. -/
def unfolded : Value → Value
  | recurrent number content => replaceAgain number (recurrent number content) content
  | value => value

mutual
/-- Whether an integer in a value has too many digits to be written. -/
def hasOverlong : Value → Bool
  | scalar value => value.isOverlong
  | list items => anyOverlong items
  | mapping entries => anyOverlongEntry entries
  | set members => members.any Scalar.isOverlong
  | pair key value => hasOverlong key || hasOverlong value
  | recurrent _ content => hasOverlong content
  | again _ => false

/-- Whether an integer in one of several values has too many digits. -/
def anyOverlong : List Value → Bool
  | [] => false
  | item :: rest => hasOverlong item || anyOverlong rest

/-- Whether an integer in a key or a value has too many digits. -/
def anyOverlongEntry : List (Scalar × Value) → Bool
  | [] => false
  | (key, value) :: rest => key.isOverlong || hasOverlong value || anyOverlongEntry rest
end

/-- The null value. -/
def null : Value := .scalar .null

/-- A text value. -/
def text (value : String) : Value := .scalar (.text value)

/-- A truth value. -/
def bool (value : Bool) : Value := .scalar (.bool value)

end Value

/-- The entries of a mapping. -/
abbrev Entries := List (Scalar × Value)

namespace Entries

/-- The value at a text key. -/
def get? (key : String) (entries : Entries) : Option Value :=
  (entries.find? fun entry => entry.1 = .text key).map (·.2)

/-- Sets the value at a key: an equal key keeps its place and its writing. -/
def set (key : Scalar) (value : Value) : Entries → Entries
  | [] => [(key, value)]
  | (other, old) :: rest =>
    if other.sameKey key then (other, value) :: rest else (other, old) :: set key value rest

/-- Entries without those at a text key. -/
def erase (key : String) (entries : Entries) : Entries :=
  entries.filter fun entry => entry.1 ≠ .text key

/-- Adds a value at a text key unless the key is there already. -/
def setDefault (key : String) (value : Value) (entries : Entries) : Entries :=
  match entries.get? key with
  | some _ => entries
  | none => entries.set (.text key) value

/-- Entries in order of writing, an equal key keeping its first place and its last value. -/
def collect (entries : List (Scalar × Value)) : Entries :=
  entries.foldl (fun collected entry => set entry.1 entry.2 collected) []

end Entries

mutual
/-- The document value of a JSON value. -/
def Value.ofJson : Json → Value
  | .null => .scalar .null
  | .bool value => .scalar (.bool value)
  | .int value => .scalar (.int value)
  | .float value => .scalar (.float value)
  | .text value => .scalar (.text value)
  | .array items => .list (Value.ofJsonItems items)
  | .object members => .mapping (Value.ofJsonMembers members)

/-- The document values of the items of an array. -/
def Value.ofJsonItems : List Json → List Value
  | [] => []
  | item :: rest => Value.ofJson item :: Value.ofJsonItems rest

/-- The entries of an object. -/
def Value.ofJsonMembers : List (String × Json) → List (Scalar × Value)
  | [] => []
  | (name, value) :: rest => (.text name, Value.ofJson value) :: Value.ofJsonMembers rest
end

end AppSync
