import AppSync.Number.Binary64

/-! JSON values, in which integers, other numbers and the order of members are told apart. -/

namespace AppSync

/-- A JSON value; a number written with neither point nor exponent is an integer. -/
inductive Json where
  | null
  | bool (value : Bool)
  | int (value : Int)
  | float (value : Binary64)
  | text (value : String)
  | array (items : List Json)
  | object (members : List (String × Json))
deriving Inhabited

namespace Json

/-- Sets one member: a name keeps its first position and takes the new value. -/
def setMember {α : Type} (name : String) (value : α) :
    List (String × α) → List (String × α)
  | [] => [(name, value)]
  | (other, old) :: rest =>
    if other = name then (other, value) :: rest else (other, old) :: setMember name value rest

/-- The members in order of writing, a repeated name keeping its first position and last value. -/
def collectMembers {α : Type} (members : List (String × α)) : List (String × α) :=
  members.foldl (fun collected member => setMember member.1 member.2 collected) []

/-- The value of a member of an object. -/
def get? (name : String) : Json → Option Json
  | .object members => (members.find? fun member => member.1 = name).map (·.2)
  | _ => none

/-- A text, or null where there is none. -/
def ofText? : Option String → Json
  | none => .null
  | some value => .text value

/-- Null where there is no value. -/
def ofOption {α : Type} (write : α → Json) : Option α → Json
  | none => .null
  | some value => write value

end Json

end AppSync
