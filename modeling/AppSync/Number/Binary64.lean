/-! Double-precision numbers as exact values, and rounding of ratios and decimals to them. -/

namespace AppSync

/-- A double-precision number; a finite one is `± significand × 2 ^ exponent`. -/
inductive Binary64 where
  | finite (negative : Bool) (significand : Nat) (exponent : Int)
  | infinite (negative : Bool)
  | nan
deriving DecidableEq, Repr, Inhabited

namespace Binary64

/-- The exponent of the smallest numbers. -/
def leastExponent : Int := -1074

/-- The largest exponent of a finite number. -/
def greatestExponent : Int := 971

/-- Significands are below this bound. -/
def significandBound : Nat := Nat.pow 2 53

/-- Neither infinite nor undefined. -/
def isFinite : Binary64 → Bool
  | .finite .. => true
  | _ => false

/-- Zero with a sign. -/
def zero (negative : Bool) : Binary64 :=
  .finite negative 0 leastExponent

/-- The quotient `num / den` scaled by `2 ^ (-exponent)`, as a ratio of naturals. -/
def scaledBy (exponent : Int) (num den : Nat) : Nat × Nat :=
  if 0 ≤ exponent then (num, den * Nat.pow 2 exponent.toNat)
  else (num * Nat.pow 2 (-exponent).toNat, den)

/-- A quotient rounded to the nearest natural, a half to the even one. -/
def roundHalfEven (num den : Nat) : Nat :=
  let quotient := num / den
  let twice := 2 * (num % den)
  if twice < den then quotient
  else if den < twice then quotient + 1
  else if quotient % 2 = 0 then quotient else quotient + 1

/-- The number nearest to `num / den`, a tie going to the even significand. -/
def ofRatio (negative : Bool) (num den : Nat) : Binary64 :=
  if num = 0 then zero negative
  else
    -- The bit lengths place the quotient within a factor of two, so one comparison settles it.
    let estimate : Int := (num.log2 : Int) - (den.log2 : Int) - 52
    let guess := scaledBy estimate num den
    let exponent := max leastExponent
      (if guess.1 / guess.2 < Nat.pow 2 52 then estimate - 1 else estimate)
    let ratio := scaledBy exponent num den
    let rounded := roundHalfEven ratio.1 ratio.2
    let significand := if rounded = significandBound then Nat.pow 2 52 else rounded
    let exponent := if rounded = significandBound then exponent + 1 else exponent
    if greatestExponent < exponent then .infinite negative
    else .finite negative significand exponent

/-- The number nearest to `digits × 10 ^ power`. -/
def ofDecimal (negative : Bool) (digits : Nat) (power : Int) : Binary64 :=
  let size : Int := (Nat.toDigits 10 digits).length
  if digits = 0 then zero negative
  -- Far outside the range no power of ten has to be computed.
  else if 400 < size + power then .infinite negative
  else if size + power < -400 then zero negative
  else if 0 ≤ power then ofRatio negative (digits * Nat.pow 10 power.toNat) 1
  else ofRatio negative digits (Nat.pow 10 (-power).toNat)

/-- The number nearest to an integer. -/
def ofInt (value : Int) : Binary64 :=
  ofRatio (value < 0) value.natAbs 1

/-- The exact value of a finite number as a signed ratio. -/
def ratio? : Binary64 → Option (Int × Nat)
  | .finite negative significand exponent =>
    let size : Nat × Nat :=
      if 0 ≤ exponent then (significand * Nat.pow 2 exponent.toNat, 1)
      else (significand, Nat.pow 2 (-exponent).toNat)
    some (if negative then -(size.1 : Int) else (size.1 : Int), size.2)
  | _ => none

/-- The integer that a finite number equals, if it is one. -/
def integer? (x : Binary64) : Option Int :=
  match x.ratio? with
  | some (num, den) => if num % den = 0 then some (num / den) else none
  | none => none

/-- A number with the other sign. -/
def negate : Binary64 → Binary64
  | .finite negative significand exponent => .finite (!negative) significand exponent
  | .infinite negative => .infinite (!negative)
  | .nan => .nan

/-- Numeric equality: both zeros are equal, and an undefined number equals nothing. -/
def same : Binary64 → Binary64 → Bool
  | .infinite a, .infinite b => a == b
  | x, y =>
    match x.ratio?, y.ratio? with
    | some (a, c), some (b, d) => a * d == b * c
    | _, _ => false

/-- The sum of two finite numbers, rounded once; anything else propagates. -/
def add (x y : Binary64) : Binary64 :=
  match x, y with
  | .nan, _ => .nan
  | _, .nan => .nan
  | .infinite a, .infinite b => if a == b then .infinite a else .nan
  | .infinite a, _ => .infinite a
  | _, .infinite b => .infinite b
  | .finite a m e, .finite b n f =>
    match ratio? (.finite a m e), ratio? (.finite b n f) with
    | some (p, c), some (q, d) =>
      let total := p * d + q * c
      if total = 0 then zero (a && b) else ofRatio (total < 0) total.natAbs (c * d)
    | _, _ => .nan

/-- Negative numbers, the negative zero among them. -/
def isNegative : Binary64 → Bool
  | .finite negative .. => negative
  | .infinite negative => negative
  | .nan => false

/-- The product of two numbers, rounded once; an infinity times zero is undefined. -/
def multiply (x y : Binary64) : Binary64 :=
  let negative := x.isNegative != y.isNegative
  match x, y with
  | .nan, _ => .nan
  | _, .nan => .nan
  | .infinite _, other => if other.same (zero false) then .nan else .infinite negative
  | other, .infinite _ => if other.same (zero false) then .nan else .infinite negative
  | .finite a m e, .finite b n f =>
    match ratio? (.finite a m e), ratio? (.finite b n f) with
    | some (p, c), some (q, d) => ofRatio negative (p.natAbs * q.natAbs) (c * d)
    | _, _ => .nan

end Binary64

end AppSync
