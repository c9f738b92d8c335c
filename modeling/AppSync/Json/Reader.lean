import AppSync.Json.Basic
import AppSync.Text.Half

/-! Reading JSON texts. -/

namespace AppSync.Json

/-- The blanks that may stand between tokens. -/
def isGap (c : Char) : Bool :=
  c == ' ' || c == '\n' || c == '\r' || c == '\t'

/-- The character that a short escape stands for. -/
def shortMeaning? (c : Char) : Option Char :=
  if c = '"' then some '"'
  else if c = '\\' then some '\\'
  else if c = '/' then some '/'
  else if c = 'n' then some '\n'
  else if c = 'r' then some '\r'
  else if c = 't' then some '\t'
  else if c = 'f' then some '\x0c'
  else if c = 'b' then some '\x08'
  else none

/-- The code unit that four hexadecimal digits spell. -/
def unit? (a b c d : Char) : Option Nat :=
  Text.hexNumber? [a, b, c, d]

/-- The characters of a literal after its opening quote, and the text after the closing one. -/
def readQuoted : List Char → Option (List Char × List Char)
  | [] => none
  | '"' :: rest => some ([], rest)
  | '\\' :: 'u' :: a :: b :: c :: d :: rest =>
    match unit? a b c d with
    | none => none
    | some unit =>
      if unit < 0xd800 ∨ 0xdfff < unit then
        (readQuoted rest).map fun found => (Char.ofNat unit :: found.1, found.2)
      else
        -- A high surrogate needs its low one; together they spell one character.
        match rest with
        | '\\' :: 'u' :: e :: f :: g :: h :: rest =>
          match unit? e f g h with
          | none => none
          | some low =>
            if unit < 0xdc00 ∧ 0xdc00 ≤ low ∧ low ≤ 0xdfff then
              (readQuoted rest).map fun found =>
                (Char.ofNat (Text.pairCode unit low) :: found.1, found.2)
            else none
        | _ => none
  | '\\' :: c :: rest =>
    match shortMeaning? c with
    | none => none
    | some meaning => (readQuoted rest).map fun found => (meaning :: found.1, found.2)
  | c :: rest =>
    if c = '\\' ∨ c < ' ' then none
    else (readQuoted rest).map fun found => (c :: found.1, found.2)

/-- Splits off an optional sign. -/
def readSign (mark : Char → Bool) : List Char → Option Char × List Char
  | c :: rest => if mark c then (some c, rest) else (none, c :: rest)
  | [] => (none, [])

/-- A number: an integer unless a fraction or an exponent follows its whole part. -/
def readNumber (chars : List Char) : Option (Json × List Char) :=
  let (sign, chars) := readSign (· == '-') chars
  let negative := sign.isSome
  let whole := chars.takeWhile Char.isDigit
  let rest := chars.dropWhile Char.isDigit
  -- No digit stands behind a leading zero.
  if whole = [] ∨ (whole.length ≠ 1 ∧ whole.head? = some '0') then none
  else
    let fraction := match rest with
      | '.' :: rest => rest.takeWhile Char.isDigit
      | _ => []
    let afterFraction := match rest with
      | '.' :: rest => if fraction = [] then none else some (rest.dropWhile Char.isDigit)
      | _ => some rest
    match afterFraction with
    | none => none
    | some rest =>
      let exponentPart : Option (Option Int × List Char) := match rest with
        | c :: tail =>
          if c = 'e' ∨ c = 'E' then
            let (mark, tail) := readSign (fun c => c == '+' || c == '-') tail
            let digits := tail.takeWhile Char.isDigit
            if digits = [] then none
            else
              let size : Int := Text.decimalNumber digits
              some (some (if mark = some '-' then -size else size), tail.dropWhile Char.isDigit)
          else some (none, rest)
        | [] => some (none, [])
      match exponentPart with
      | none => none
      | some (power, after) =>
        -- An exponent alone makes it a number with a point, whatever its value is.
        if fraction = [] ∧ power = none then
          let size : Int := Text.decimalNumber whole
          some (.int (if negative then -size else size), after)
        else
          some (.float (Binary64.ofDecimal negative (Text.decimalNumber (whole ++ fraction))
            (power.getD 0 - fraction.length)), after)

/-- Text after leading gaps. -/
def skipGaps (chars : List Char) : List Char :=
  chars.dropWhile isGap

mutual
/-- A value at the start of a text; the fuel bounds nesting and lengths. -/
def readValue : Nat → List Char → Option (Json × List Char)
  | 0, _ => none
  | fuel + 1, chars =>
    match chars with
    | 'n' :: 'u' :: 'l' :: 'l' :: rest => some (.null, rest)
    | 't' :: 'r' :: 'u' :: 'e' :: rest => some (.bool true, rest)
    | 'f' :: 'a' :: 'l' :: 's' :: 'e' :: rest => some (.bool false, rest)
    | '"' :: rest => (readQuoted rest).map fun found => (.text (String.ofList found.1), found.2)
    | '[' :: rest =>
      match skipGaps rest with
      | ']' :: rest => some (.array [], rest)
      | rest => (readItems fuel rest).map fun found => (.array found.1, found.2)
    | '\x7b' :: rest =>
      match skipGaps rest with
      | '\x7d' :: rest => some (.object [], rest)
      | rest =>
        (readMembers fuel rest).map fun found => (.object (collectMembers found.1), found.2)
    | chars => readNumber chars

/-- Items up to the closing bracket. -/
def readItems : Nat → List Char → Option (List Json × List Char)
  | 0, _ => none
  | fuel + 1, chars =>
    match readValue fuel (skipGaps chars) with
    | none => none
    | some (item, rest) =>
      match skipGaps rest with
      | ',' :: rest => (readItems fuel rest).map fun found => (item :: found.1, found.2)
      | ']' :: rest => some ([item], rest)
      | _ => none

/-- Members up to the closing brace. -/
def readMembers : Nat → List Char → Option (List (String × Json) × List Char)
  | 0, _ => none
  | fuel + 1, chars =>
    match skipGaps chars with
    | '"' :: rest =>
      match readQuoted rest with
      | none => none
      | some (name, rest) =>
        match skipGaps rest with
        | ':' :: rest =>
          match readValue fuel (skipGaps rest) with
          | none => none
          | some (value, rest) =>
            let member := (String.ofList name, value)
            match skipGaps rest with
            | ',' :: rest => (readMembers fuel rest).map fun found => (member :: found.1, found.2)
            | '\x7d' :: rest => some ([member], rest)
            | _ => none
        | _ => none
    | _ => none
end

/-- The value that a whole text spells. -/
def read? (text : String) : Option Json :=
  let chars := skipGaps text.toList
  match readValue (2 * chars.length + 2) chars with
  | some (value, rest) => if skipGaps rest = [] then some value else none
  | none => none

end AppSync.Json
