import AppSync.Text.Hex
import AppSync.Yaml.Scanning
import AppSync.Yaml.Token

/-! Anchors, aliases and tags, and the directives that tags depend on. -/

namespace AppSync.Yaml

open Scanning

/-- Letters, digits and the two marks that names may hold. -/
def isWordCharacter (c : Char) : Bool :=
  c.isAlphanum || c == '-' || c == '_'

/-- What may follow an anchor or alias. -/
def endsName (c : Char) : Bool :=
  isGap c || "?:,]\x7d%@`".toList.contains c

/-- The characters of a tag or of the stem that a handle stands for, escapes apart. -/
def isUriCharacter (c : Char) : Bool :=
  c.isAlphanum || "-;/?:@&=+$,_.!~*'()[]".toList.contains c

/-- An anchor or alias, whose sign comes next. -/
def scanName : Scanning Lexeme := do
  let start ← place
  let isAlias := (← next) = '*'
  let activity := if isAlias then Activity.aliasing else Activity.anchor
  advance 1
  let name ← takeWhile isWordCharacter
  if name.isEmpty then failAtNext activity start .letterOrDigit
  require activity start .letterOrDigit endsName
  let name := String.ofList name
  return if isAlias then .aliasOf name else .anchor name

/-- The bytes that escapes spell; the fuel bounds their number. -/
def scanEscapedBytes (activity : Activity) (start : Mark) : Nat → Scanning (List UInt8)
  | 0 => return []
  | fuel + 1 => do
    if (← next) ≠ '%' then return []
    advance 1
    let cursor ← get
    match Text.hexValue? cursor.next, Text.hexValue? (cursor.ahead 1) with
    | none, _ => fail activity start (.unexpected .uriEscape cursor.next)
    | _, none => fail activity start (.unexpected .uriEscape (cursor.ahead 1))
    | some high, some low =>
      advance 2
      return UInt8.ofNat (16 * high + low) :: (← scanEscapedBytes activity start fuel)

/-- The parts of a tag up to its end; the fuel bounds the number of escapes. -/
def scanUriParts (activity : Activity) (start : Mark) : Nat → Scanning (List Char)
  | 0 => return []
  | fuel + 1 => do
    let plain ← takeWhile isUriCharacter
    if (← next) ≠ '%' then return plain
    let mark ← place
    let bytes ← scanEscapedBytes activity start fuel
    match Utf8.decode bytes with
    | .error error => throw (.fault ⟨.undecodable error, mark, some activity, some start⟩)
    | .ok text => return plain ++ text.toList ++ (← scanUriParts activity start fuel)

/-- A nonempty tag or stem; `whole` is the activity in which it is missed. -/
def scanUri (activity whole : Activity) (start : Mark) : Scanning String := do
  let before ← get
  let found ← scanUriParts activity start (before.rest.length + 1)
  if (← get).rest.length = before.rest.length then failAtNext whole start .uri
  return String.ofList found

/-- A tag handle: one sign, or a word between two. -/
def scanHandle (activity : Activity) (start : Mark) : Scanning String := do
  require activity start .exclamation (· == '!')
  let cursor ← get
  if cursor.ahead 1 = ' ' then
    advance 1
    return "!"
  advance 1
  let word ← takeWhile isWordCharacter
  require activity start .exclamation (· == '!')
  advance 1
  return String.ofList ('!' :: word ++ ['!'])

/-- Whether a second sign comes before the end of a tag, so that a handle begins it. -/
def hasHandle (cursor : Cursor) : Bool :=
  ((cursor.rest.drop 1).takeWhile fun c => !isSpaceOrEnd c).contains '!'

/-- A tag, whose sign comes next. -/
def scanTag : Scanning Lexeme := do
  let start ← place
  let cursor ← get
  let second := cursor.ahead 1
  let (handle, suffix) ←
    if second = '<' then do
      advance 2
      let suffix ← scanUri .tag .tagPart start
      require .tagPart start .closingAngle (· == '>')
      advance 1
      pure (none, suffix)
    -- The sign alone is a tag of its own.
    else if isGap second then do
      advance 1
      pure (none, "!")
    else if hasHandle cursor then do
      let handle ← scanHandle .tag start
      pure (some handle, ← scanUri .tag .tagPart start)
    else do
      advance 1
      pure (some "!", ← scanUri .tag .tagPart start)
  require .tag start .blank isSpaceOrEnd
  return .tag handle suffix

/-- A number in a version. -/
def scanVersionNumber (start : Mark) : Scanning Nat := do
  require .directive start .digit Char.isDigit
  return Text.decimalNumber (← takeWhile Char.isDigit)

/-- The version in a directive. -/
def scanVersion (start : Mark) : Scanning Directive := do
  modify (Cursor.skip (· == ' '))
  let major ← scanVersionNumber start
  require .directive start .digitOrPoint (· == '.')
  advance 1
  let _ ← scanVersionNumber start
  require .directive start .digitOrBlank isSpaceOrEnd
  return .version major

/-- The handle and the stem in a directive. -/
def scanHandleDirective (start : Mark) : Scanning Directive := do
  modify (Cursor.skip (· == ' '))
  let handle ← scanHandle .directive start
  require .directive start .blank (· == ' ')
  modify (Cursor.skip (· == ' '))
  let stem ← scanUri .directive .directivePart start
  require .directive start .blank isSpaceOrEnd
  return .handle handle stem

/-- A directive, whose sign comes next. -/
def scanDirective : Scanning Directive := do
  let start ← place
  advance 1
  let name ← takeWhile isWordCharacter
  if name.isEmpty then failAtNext .directive start .letterOrDigit
  require .directive start .letterOrDigit isSpaceOrEnd
  let directive ←
    match String.ofList name with
    | "YAML" => scanVersion start
    | "TAG" => scanHandleDirective start
    -- A directive that is not known is passed over.
    | _ => do
      modify (Cursor.skip fun c => !isEnd c)
      pure .other
  finishLine .directive start
  return directive

end AppSync.Yaml
