/-! Integers written in decimal. Very long ones are neither read nor written. -/

namespace AppSync.Number

/-- The most digits of an integer that is read or written in decimal. -/
def digitLimit : Nat := 4300

/-- Whether an integer has too many digits to be written. -/
def isOverlong (value : Int) : Bool :=
  Nat.pow 10 digitLimit ≤ value.natAbs

end AppSync.Number
