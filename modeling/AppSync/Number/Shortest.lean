import AppSync.Number.Binary64

/-! The shortest decimal that reads back as a given number, and its written form. -/

namespace AppSync.Binary64

/-- Decimal digits, without trailing zeros, of `digits × 10 ^ power`. -/
structure Decimal where
  digits : Nat
  power : Int
deriving DecidableEq, Repr

/-- Drops trailing zeros; the fuel is the number of digits. -/
def Decimal.trimmed : Nat → Decimal → Decimal
  | 0, d => d
  | fuel + 1, d =>
    if d.digits ≠ 0 ∧ d.digits % 10 = 0 then trimmed fuel ⟨d.digits / 10, d.power + 1⟩ else d

/-- Half-way points to the neighbours of `significand × 2 ^ exponent`, in quarters of the last bit. -/
def quarterBounds (significand : Nat) (exponent : Int) : Nat × Nat :=
  -- Below a power of two the spacing halves, except where exponents end.
  let below := if significand = Nat.pow 2 52 ∧ leastExponent < exponent then 1 else 2
  (4 * significand - below, 4 * significand + 2)

/-- The ratio of naturals equal to `units × 2 ^ exponent × 10 ^ (-power)`. -/
def onGrid (units : Nat) (exponent power : Int) : Nat × Nat :=
  let num := units * (if 0 ≤ exponent then Nat.pow 2 exponent.toNat else 1) *
    (if power < 0 then Nat.pow 10 (-power).toNat else 1)
  let den := (if exponent < 0 then Nat.pow 2 (-exponent).toNat else 1) *
    (if 0 ≤ power then Nat.pow 10 power.toNat else 1)
  (num, den)

/-- The multiple of `10 ^ power` nearest to a number among those that read back as it. -/
def nearestOnGrid? (significand : Nat) (exponent power : Int) : Option Nat :=
  let bounds := quarterBounds significand exponent
  let low := onGrid bounds.1 (exponent - 2) power
  let high := onGrid bounds.2 (exponent - 2) power
  let exact := onGrid significand exponent power
  -- An even significand owns the half-way points, so it is also read from them.
  let closed := significand % 2 = 0
  let reads (candidate : Nat) : Bool :=
    if closed then low.1 ≤ candidate * low.2 && candidate * high.2 ≤ high.1
    else low.1 < candidate * low.2 && candidate * high.2 < high.1
  let floor := exact.1 / exact.2
  let nearest := roundHalfEven exact.1 exact.2
  let other := if nearest = floor then floor + 1 else floor
  if nearest ≠ 0 && reads nearest then some nearest
  else if other ≠ 0 && reads other then some other
  else none

/-- Tries grids of growing fineness until one holds a decimal that reads back. -/
def searchGrids (significand : Nat) (exponent : Int) : Nat → Int → Decimal
  | 0, power => ⟨significand, power⟩
  | fuel + 1, power =>
    match nearestOnGrid? significand exponent power with
    | some digits => Decimal.trimmed 20 ⟨digits, power⟩
    | none => searchGrids significand exponent fuel (power - 1)

/-- The shortest decimal that reads back as `significand × 2 ^ exponent`, for a positive one. -/
def shortest (significand : Nat) (exponent : Int) : Decimal :=
  let exact := onGrid significand exponent 0
  let size : Int :=
    if exact.2 ≤ exact.1 then (Nat.toDigits 10 (exact.1 / exact.2)).length
    else 1 - ((Nat.toDigits 10 (exact.2 / exact.1)).length : Int)
  searchGrids significand exponent 20 (size - 1)

/-- How a decimal is laid out: the exponents written positionally and the least exponent digits. -/
structure Layout where
  leastPositional : Int
  firstScientific : Int
  exponentDigits : Nat

/-- Numbers stand positionally from `0.0001` to below `10 ^ 16`, exponents have two digits. -/
def standardLayout : Layout := ⟨-4, 16, 2⟩

/-- The written form of a positive decimal. -/
def Decimal.written (layout : Layout) (d : Decimal) : List Char :=
  let digits := Nat.toDigits 10 d.digits
  let place : Int := digits.length + d.power - 1
  if layout.leastPositional ≤ place ∧ place < layout.firstScientific then
    if 0 ≤ d.power then digits ++ List.replicate d.power.toNat '0' ++ ['.', '0']
    else if 0 ≤ place then
      digits.take (place.toNat + 1) ++ '.' :: digits.drop (place.toNat + 1)
    else '0' :: '.' :: List.replicate (-place - 1).toNat '0' ++ digits
  else
    let fraction := match digits.drop 1 with
      | [] => []
      | others => '.' :: others
    let power := Nat.toDigits 10 place.natAbs
    digits.take 1 ++ fraction ++ 'e' :: (if place < 0 then '-' else '+') ::
      List.replicate (layout.exponentDigits - power.length) '0' ++ power

/-- The written form of a number, by which it reads back exactly. -/
def text : Binary64 → String
  | .nan => "nan"
  | .infinite negative => if negative then "-inf" else "inf"
  | .finite negative significand exponent =>
    let size :=
      if significand = 0 then ['0', '.', '0']
      else (shortest significand exponent).written standardLayout
    String.ofList (if negative then '-' :: size else size)

end AppSync.Binary64
