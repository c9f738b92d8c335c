import AppSync.Accident
import AppSync.Number.Binary64
import AppSync.Text.Blank
import AppSync.Text.Digit
import AppSync.Text.Hex
import AppSync.Text.Lower

/-! Numbers as scalars write them: in four bases, in sixties, with underscores. -/

namespace AppSync.Yaml

/-- A text without its sign, and whether the sign was a minus. -/
def splitSign : List Char → Bool × List Char
  | '-' :: rest => (true, rest)
  | '+' :: rest => (false, rest)
  | chars => (false, chars)

/-- The parts of a text between colons. -/
def splitColons (text : List Char) : List (List Char) :=
  Text.split (· = ':') text

/-! ## Which texts are numbers -/

/-- Digits and underscores. -/
def isDigitOrGroup (c : Char) : Bool :=
  c.isDigit || c == '_'

/-- Digits below a bound, and underscores. -/
def isDigitBelow (bound : Nat) (c : Char) : Bool :=
  c == '_' || ((Text.hexValue? c).any (· < bound))

/-- A digit of at most five before another one, or a digit alone. -/
def isSixtieth : List Char → Bool
  | [c] => c.isDigit
  | [c, d] => '0' ≤ c && c ≤ '5' && d.isDigit
  | _ => false

/-- A number that begins with no zero, and parts of sixty after colons. -/
def isSexagesimal (first : Char → Bool) (chars : List Char) : Bool :=
  match splitColons chars with
  | (c :: whole) :: part :: parts =>
    first c && whole.all isDigitOrGroup && (part :: parts).all isSixtieth
  | _ => false

/-- The texts that are integers unless tagged otherwise. -/
def isInteger (chars : List Char) : Bool :=
  let unsigned := (splitSign chars).2
  match unsigned with
  | ['0'] => true
  | '0' :: 'b' :: digits => !digits.isEmpty && digits.all (isDigitBelow 2)
  | '0' :: 'x' :: digits => !digits.isEmpty && digits.all (isDigitBelow 16)
  | '0' :: digits => digits.all (isDigitBelow 8)
  | first :: digits =>
    first.isDigit &&
      (digits.all isDigitOrGroup || isSexagesimal (fun c => c.isDigit && c != '0') unsigned)
  | [] => false

/-- An exponent with its sign, or nothing. -/
def isExponent : List Char → Bool
  | [] => true
  | mark :: sign :: digits =>
    (mark == 'e' || mark == 'E') && (sign == '-' || sign == '+') && !digits.isEmpty &&
      digits.all Char.isDigit
  | _ => false

/-- The texts that are numbers with a point unless tagged otherwise. -/
def isDecimal (chars : List Char) : Bool :=
  let unsigned := (splitSign chars).2
  let whole := unsigned.takeWhile isDigitOrGroup
  let isPointed := match unsigned.dropWhile isDigitOrGroup with
    | '.' :: rest =>
      isExponent (rest.dropWhile isDigitOrGroup) &&
        if whole.isEmpty then
          chars.length = unsigned.length && (rest.head?.any Char.isDigit)
        else whole.head?.any Char.isDigit
    | _ => false
  -- Numbers to the base of sixty have colons between their places.
  let isSixty :=
    match unsigned.reverse.dropWhile isDigitOrGroup with
    | '.' :: rest => isSexagesimal Char.isDigit rest.reverse
    | _ => false
  let infinities := [".inf", ".Inf", ".INF"].map String.toList
  let undefined := [".nan", ".NaN", ".NAN"].map String.toList
  isPointed || isSixty || infinities.contains unsigned || undefined.contains chars

/-! ## Their values -/

/-- The letter that may follow a zero before the digits of a base. -/
def baseLetter? (base : Nat) : Option Char :=
  if base = 2 then some 'b' else if base = 8 then some 'o' else if base = 16 then some 'x' else none

/-- Digits without the zero and the letter that announce a base. -/
def withoutBase (base : Nat) : List Char → List Char
  | '0' :: letter :: digits =>
    if (baseLetter? base).any (· == letter.toLower) then digits else '0' :: letter :: digits
  | digits => digits

/-- A digit of any script as one from `0` to `9`. -/
def plainDigit (c : Char) : Char :=
  match Text.digit? c with
  | some value => Char.ofNat ('0'.toNat + value)
  | none => c

/-- The integer that a text spells in a base, between blanks and behind a sign. -/
def integerIn (base : Nat) (text : List Char) : Except Accident Int :=
  let (negative, unsigned) := splitSign (Text.trimBy Text.isWhiteSpace (text.map plainDigit))
  let digits := withoutBase base unsigned
  let value? := digits.foldlM (fun value c =>
    match Text.hexValue? c with
    | some digit => if digit < base then some (value * base + digit) else none
    | none => none) 0
  match value? with
  | none => .error (.numeral base (String.ofList text))
  | some value =>
    if digits.isEmpty then .error (.numeral base (String.ofList text))
    else if base = 10 ∧ Number.digitLimit < digits.length then
      .error (.longNumeral digits.length)
    else .ok (if negative then -(value : Int) else value)

/-- The value of a text that is an integer or tagged as one. -/
def integerValue (text : List Char) : Except Accident Int := do
  let (negative, unsigned) := splitSign (text.filter (· ≠ '_'))
  let size ← match unsigned with
    | [] => throw .emptyNumeral
    | ['0'] => pure 0
    | '0' :: 'b' :: digits => integerIn 2 digits
    | '0' :: 'x' :: digits => integerIn 16 digits
    | '0' :: _ => integerIn 8 unsigned
    | _ =>
      if unsigned.contains ':' then
        let parts ← (splitColons unsigned).mapM (integerIn 10)
        pure (parts.foldl (fun value part => value * 60 + part) 0)
      else integerIn 10 unsigned
  return if negative then -size else size

/-- The number that a text spells: decimal digits with point and exponent, or a word. -/
def decimalIn (text : List Char) : Except Accident Binary64 :=
  let (negative, unsigned) := splitSign (Text.trimBy Text.isWhiteSpace (text.map plainDigit))
  let whole := unsigned.takeWhile Char.isDigit
  let afterWhole := unsigned.dropWhile Char.isDigit
  let (fraction, rest) := match afterWhole with
    | '.' :: tail => (tail.takeWhile Char.isDigit, tail.dropWhile Char.isDigit)
    | _ => ([], afterWhole)
  let power? : Option Int := match rest with
    | [] => some 0
    | mark :: exponent =>
      let (negative, digits) := splitSign exponent
      if (mark == 'e' || mark == 'E') && !digits.isEmpty && digits.all Char.isDigit then
        let size : Int := Text.decimalNumber digits
        some (if negative then -size else size)
      else none
  -- Words are told in letters of either case.
  let word := String.ofList (unsigned.map Char.toLower)
  if word = "inf" ∨ word = "infinity" then .ok (.infinite negative)
  else if word = "nan" then .ok .nan
  else
    match power? with
    | some power =>
      if whole.isEmpty ∧ fraction.isEmpty then .error (.decimal (String.ofList text))
      else
        .ok (Binary64.ofDecimal negative (Text.decimalNumber (whole ++ fraction))
          (power - fraction.length))
    | none => .error (.decimal (String.ofList text))

/-- The sum of parts, the last first, each weighing sixty times as much as the one before. -/
def sexagesimalSum (total : Binary64) (weight : Nat) :
    List Binary64 → Except Accident Binary64
  | [] => .ok total
  | part :: rest =>
    let factor := Binary64.ofInt weight
    if factor.isFinite then
      sexagesimalSum (total.add (part.multiply factor)) (weight * 60) rest
    else .error .unboundedNumber

/-- Whether a text is the sign for the undefined number. -/
def isUndefinedSign (text : List Char) : Bool :=
  (splitSign (Text.lower (text.filter (· ≠ '_')))).2 = ".nan".toList

/-- The value of a text that is a number with a point or tagged as one. -/
def decimalValue (text : List Char) : Except Accident Binary64 := do
  let (negative, unsigned) := splitSign (Text.lower (text.filter (· ≠ '_')))
  let size ←
    if unsigned.isEmpty ∧ text.all (· == '_') then throw .emptyNumeral
    else if unsigned = ".inf".toList then pure (.infinite false)
    else if unsigned = ".nan".toList then pure .nan
    else if unsigned.contains ':' then do
      let parts ← (splitColons unsigned).mapM decimalIn
      sexagesimalSum (.zero false) 1 parts.reverse
    else decimalIn unsigned
  return if negative then size.negate else size

end AppSync.Yaml
