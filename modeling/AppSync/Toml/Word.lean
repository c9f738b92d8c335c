import AppSync.Text.Hex
import AppSync.Toml.Fault

/-! Keys, strings and comments of TOML texts. -/

namespace AppSync.Toml

open Scanning

/-- The blanks inside a line. -/
def isBlank (c : Char) : Bool :=
  c == ' ' || c == '\t'

/-- Blanks and line breaks. -/
def isBlankOrBreak (c : Char) : Bool :=
  isBlank c || c == '\n'

/-- Controls, which comments and strings cannot hold; a tab is none. -/
def isControl (c : Char) : Bool :=
  (c < ' ' && c != '\t') || c == '\x7f'

/-- Controls that strings of several lines cannot hold. -/
def isControlInLines (c : Char) : Bool :=
  isControl c && c != '\n'

/-- The characters of a key without quotes. -/
def isBareKeyCharacter (c : Char) : Bool :=
  c.isAlphanum || c == '-' || c == '_'

/-- The characters that a key may begin with. -/
def startsKey (c : Char) : Bool :=
  isBareKeyCharacter c || c == '"' || c == '\''

/-- Refuses a character of a class among those that come next, up to a number of them. -/
def refuse (member : Char → Bool) (count : Nat) : Scanning Unit := do
  let rest ← get
  let body := rest.take count
  match body.find? member with
  | some found =>
    failBefore (rest.drop (body.takeWhile fun c => !member c).length) (.strayCharacter found)
  | none => pure ()

/-- Moves behind a comment, if one comes next. -/
def skipComment : Scanning Unit := do
  if ← comes ['#'] then
    advance 1
    let body := (← get).takeWhile (· ≠ '\n')
    refuse isControl body.length
    advance body.length

/-- The number of characters before the first occurrence of others. -/
def distanceTo? (sought : List Char) : List Char → Option Nat
  | [] => none
  | c :: rest =>
    if sought.isPrefixOf (c :: rest) then some 0 else (distanceTo? sought rest).map (· + 1)

/-- The text up to a delimiter, which is passed. -/
def takeUntil (delimiter : List Char) (member : Char → Bool) : Scanning (List Char) := do
  let rest ← get
  match distanceTo? delimiter rest with
  | none => failBefore [] (.unclosed (String.ofList delimiter))
  | some count =>
    refuse member count
    advance (count + delimiter.length)
    return rest.take count

/-- The character that an escape of two characters stands for. -/
def escapeMeaning? (c : Char) : Option Char :=
  if c = 'b' then some '\x08'
  else if c = 't' then some '\t'
  else if c = 'n' then some '\n'
  else if c = 'f' then some '\x0c'
  else if c = 'r' then some '\r'
  else if c = '"' then some '"'
  else if c = '\\' then some '\\'
  else none

/-- The character whose code is written in a number of digits. -/
def takeCode (digits : Nat) : Scanning Char := do
  let written := (← get).take digits
  match Text.hexNumber? written with
  | some code =>
    if written.length < digits then fail .invalidHex
    advance digits
    if code ≤ 0xd7ff ∨ (0xe000 ≤ code ∧ code ≤ 0x10ffff) then return Char.ofNat code
    fail .invalidScalar
  | none => fail .invalidHex

/-- What an escape stands for; at the end of a line it hides the break and the blanks after it. -/
def takeEscape (inLines : Bool) : Scanning (List Char) := do
  advance 1
  match ← next? with
  | none => fail .strayBackslash
  | some c =>
    advance 1
    -- In texts of several lines a backslash hides the end of its line and what is blank.
    if inLines ∧ isBlankOrBreak c then
      if c ≠ '\n' then
        skip isBlank
        match ← next? with
        | none => return []
        | some c =>
          if c ≠ '\n' then fail .strayBackslash
          advance 1
      skip isBlankOrBreak
      return []
    else if c = 'u' then return [← takeCode 4]
    else if c = 'U' then return [← takeCode 8]
    else
      match escapeMeaning? c with
      | some meaning => return [meaning]
      | none => fail .strayBackslash

/-- The rest of a string with escapes, up to its closing quote or quotes, which are passed. -/
def takeBasic (inLines : Bool) : Nat → Scanning (List Char)
  | 0 => fail .unterminatedString
  | fuel + 1 => do
    match ← next? with
    | none => fail .unterminatedString
    | some c =>
      if c = '"' then
        if !inLines then
          advance 1
          return []
        if ← comes ['"', '"', '"'] then
          advance 3
          return []
        advance 1
        return c :: (← takeBasic inLines fuel)
      else if c = '\\' then
        let meaning ← takeEscape inLines
        return meaning ++ (← takeBasic inLines fuel)
      else if (if inLines then isControlInLines c else isControl c) then
        fail (.strayStringCharacter c)
      else
        advance 1
        return c :: (← takeBasic inLines fuel)

/-- A string with escapes on one line, whose quote comes next. -/
def takeBasicLine : Scanning String := do
  advance 1
  return String.ofList (← takeBasic false ((← get).length + 1))

/-- A string without escapes on one line, whose quote comes next. -/
def takeLiteralLine : Scanning String := do
  advance 1
  return String.ofList (← takeUntil ['\''] isControl)

/-- Up to two quotes that belong to a string although they follow its closing ones. -/
def takeFinalQuotes (quote : Char) : Scanning (List Char) := do
  let found := ((← get).take 2).takeWhile (· = quote)
  advance found.length
  return found

/-- A string of several lines, whose three quotes come next; a break right behind them is dropped. -/
def takeLines (quote : Char) : Scanning String := do
  advance 3
  if ← comes ['\n'] then advance 1
  let body ←
    if quote = '"' then takeBasic true ((← get).length + 1)
    else takeUntil [quote, quote, quote] isControlInLines
  return String.ofList (body ++ (← takeFinalQuotes quote))

/-- One part of a key. -/
def takeKeyPart : Scanning String := do
  match ← next? with
  | some '\'' => takeLiteralLine
  | some '"' => takeBasicLine
  | some c =>
    if isBareKeyCharacter c then return String.ofList (← takeWhile isBareKeyCharacter)
    fail .invalidKeyStart
  | none => fail .invalidKeyStart

/-- Further parts of a key, each behind a point; the fuel bounds their number. -/
def takeKeyParts : Nat → Scanning Key
  | 0 => return []
  | fuel + 1 => do
    skip isBlank
    if ← comes ['.'] then
      advance 1
      skip isBlank
      let part ← takeKeyPart
      return part :: (← takeKeyParts fuel)
    else return []

/-- A key, and the blanks behind it. -/
def takeKey : Scanning Key := do
  let part ← takeKeyPart
  return part :: (← takeKeyParts ((← get).length + 1))

end AppSync.Toml
