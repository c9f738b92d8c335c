import AppSync.Text.Hex

/-!
Halves of characters that stand in a text by themselves. A text has no room for them, so each is
carried by a private character at a fixed distance.
-/

namespace AppSync.Text

/-- Codes that are halves of characters. -/
def isHalf (code : Nat) : Bool :=
  0xd800 ≤ code && code ≤ 0xdfff

/-- Codes that begin a pair of halves. -/
def isHighHalf (code : Nat) : Bool :=
  0xd800 ≤ code && code ≤ 0xdbff

/-- Codes that end a pair of halves. -/
def isLowHalf (code : Nat) : Bool :=
  0xdc00 ≤ code && code ≤ 0xdfff

/-- The distance from a half to the character that carries it; it is never counted down. -/
@[irreducible] def carrierDistance : Nat := 0x100000

/-- The character of a code, or the one that carries a half. -/
def ofCode (code : Nat) : Char :=
  if isHalf code then Char.ofNat (code + carrierDistance) else Char.ofNat code

/-- The code of a character, or of the half that it carries. -/
def codeOf (c : Char) : Nat :=
  if isHalf (c.toNat - carrierDistance) then c.toNat - carrierDistance else c.toNat

/-- Whether a character carries a half. -/
def carriesHalf (c : Char) : Bool :=
  isHalf (codeOf c)

/-- Whether two characters carry the halves of one. -/
def isPair (first second : Char) : Bool :=
  isHighHalf (codeOf first) && isLowHalf (codeOf second)

/-- The code that a pair of halves has as one character. -/
def pairCode (high low : Nat) : Nat :=
  0x10000 + (high - 0xd800) * 0x400 + (low - 0xdc00)

/-- Whether a text has halves of characters in it. -/
def hasHalves (text : String) : Bool :=
  text.toList.any carriesHalf

/-- The order of texts by the codes of their characters. -/
def codesBefore : List Char → List Char → Bool
  | _, [] => false
  | [], _ :: _ => true
  | a :: as, b :: bs =>
    codeOf a < codeOf b || (codeOf a == codeOf b && codesBefore as bs)

/-- Whether a text comes no later than another one by the codes of their characters. -/
def codesInOrder (first second : String) : Bool :=
  !codesBefore second.toList first.toList

/-- The escape of a character by its code, in as few digits as its size allows. -/
def codeEscape (c : Char) : List Char :=
  let code := codeOf c
  if code < 0x100 then '\\' :: 'x' :: hexFixed 2 code
  else if code < 0x10000 then '\\' :: 'u' :: hexFixed 4 code
  else '\\' :: 'U' :: hexFixed 8 code

/-- A text with halves of characters escaped. -/
def escapeHalves (text : String) : String :=
  String.ofList (text.toList.flatMap fun c => if carriesHalf c then codeEscape c else [c])

/-- The complaint about the first characters of a text that an encoding lacks, if there are any. -/
def unencodable? (encoding reason : String) (isEncodable : Char → Bool) (text : List Char) :
    Option String :=
  let position := (text.takeWhile isEncodable).length
  let named (c : Char) : String := "'" ++ String.ofList (codeEscape c) ++ "'"
  let subject := match (text.dropWhile isEncodable).takeWhile fun c => !isEncodable c with
    | [] => none
    | [c] => some s!"character {named c} in position {position}"
    | many => some s!"characters in position {position}-{position + many.length - 1}"
  subject.map fun subject => s!"'{encoding}' codec can't encode {subject}: {reason}"

/-- The complaint about a text that cannot be encoded because of halves of characters. -/
def unencodableHalves? (text : String) : Option String :=
  unencodable? "utf-8" "surrogates not allowed" (fun c => !carriesHalf c) text.toList

end AppSync.Text
