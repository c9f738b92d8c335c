import AppSync.Text.Identifier
import AppSync.Text.Split

/-!
Literals: numbers, texts and constants, and tuples, sets and mappings of them. They are the
parameters of an action that a mark names, and are only looked at for whether they are well formed.
-/

namespace AppSync.Console.Literal

/-- Why a text is no literal. -/
inductive Flaw where
  /-- A quote is not closed. -/
  | unterminated (isTriple : Bool)
  /-- A bracket closes nothing. -/
  | unmatched (closing : Char)
  /-- A bracket closes one of the other kind. -/
  | mismatched (opening closing : Char)
  /-- A bracket is not closed. -/
  | unclosed (opening : Char)
  /-- A letter stands right behind a number. -/
  | crowdedNumber
  /-- A whole number has zeros before its other digits. -/
  | leadingZero
  /-- Two values stand side by side in brackets. -/
  | missingComma
  | misplaced
deriving DecidableEq, Repr

/-- The sentence that states a flaw. -/
def Flaw.message : Flaw → String
  | unterminated isTriple =>
    let quotes := if isTriple then "triple-quoted string" else "string"
    s!"unterminated {quotes} literal (detected at line 1)"
  | unmatched closing => s!"unmatched '{closing}'"
  | mismatched opening closing =>
    s!"closing parenthesis '{closing}' does not match opening parenthesis '{opening}'"
  | unclosed opening => s!"'{opening}' was never closed"
  | crowdedNumber => "invalid decimal literal"
  | leadingZero =>
    "leading zeros in decimal integer literals are not permitted; " ++
      "use an 0o prefix for octal integers"
  | missingComma => "invalid syntax. Perhaps you forgot a comma?"
  | misplaced => "invalid syntax"

/-! ## Tokens -/

/-- What a literal is made of. -/
inductive Token where
  | text
  | number
  | name
  | opening (bracket : Char)
  | closing (bracket : Char)
  | dot
  | comma
  | colon
  | sign
  | other
deriving DecidableEq, Repr

/-- The bracket that closes what another one opens. -/
def partner (opening : Char) : Char :=
  if opening = '(' then ')' else '\x7d'

/-- What follows the closing quotes of a text. -/
def behindText? (quotes : List Char) : List Char → Option (List Char)
  | [] => none
  | '\\' :: _ :: rest => behindText? quotes rest
  | c :: rest =>
    if quotes.isPrefixOf (c :: rest) then some ((c :: rest).drop quotes.length)
    else behindText? quotes rest

/-- What follows a text whose first quote has been passed. -/
def behindQuote (quote : Char) (chars : List Char) : Except Flaw (List Char) :=
  match chars with
  | first :: second :: rest =>
    if first = quote && second = quote then
      match behindText? [quote, quote, quote] rest with
      | some behind => .ok behind
      | none => .error (.unterminated true)
    else closed
  | _ => closed
where
  closed : Except Flaw (List Char) :=
    match behindText? [quote] chars with
    | some behind => .ok behind
    | none => .error (.unterminated false)

/-- What follows a number: digits, and perhaps a point and more digits. -/
def behindNumber (chars : List Char) : Except Flaw (List Char) :=
  let whole := chars.takeWhile Char.isDigit
  let behind := match chars.dropWhile Char.isDigit with
    | '.' :: rest => rest.dropWhile Char.isDigit
    | rest => rest
  if behind.head?.any Text.isIdentifierStart then .error .crowdedNumber
  else if whole.head? = some '0' && whole.any (· ≠ '0') &&
      whole.length + behind.length = chars.length then .error .leadingZero
  else .ok behind

/-- The token of a mark between values. -/
def tokenOf (c : Char) : Token :=
  if c = ',' then .comma else if c = ':' then .colon else if c = '.' then .dot
  else if c = '-' || c = '+' then .sign else .other

/-- Whether a text begins with a number. -/
def startsNumber : List Char → Bool
  | '.' :: c :: _ => c.isDigit
  | c :: _ => c.isDigit
  | [] => false

/-- The tokens of a text, with the brackets that are open, the innermost first. -/
def tokens (opened : List Char) : Nat → List Char → Except Flaw (List Token × List Char)
  | 0, _ => .ok ([], opened)
  | _, [] => .ok ([], opened)
  | fuel + 1, c :: rest =>
    let followed (token : Token) (opened : List Char) (rest : List Char) :=
      (tokens opened fuel rest).map fun found => (token :: found.1, found.2)
    if Text.isBlank c then tokens opened fuel rest
    else if c = '\'' || c = '"' then do followed .text opened (← behindQuote c rest)
    else if c = '(' || c = '\x7b' then followed (.opening c) (c :: opened) rest
    else if c = ')' || c = '\x7d' then
      match opened with
      | [] => .error (.unmatched c)
      | opening :: outer =>
        if partner opening = c then followed (.closing c) outer rest
        else .error (.mismatched opening c)
    else if startsNumber (c :: rest) then do followed .number opened (← behindNumber (c :: rest))
    else if Text.isIdentifierStart c then
      followed .name opened (rest.dropWhile Text.isIdentifierPart)
    else followed (tokenOf c) opened rest

/-! ## Values -/

/-- Where values end too early: with the text, or in front of what does not belong there. -/
inductive Halt where
  | early
  | misplaced
  | missingComma

/-- Whether a value can begin with a token. -/
def Token.beginsValue : Token → Bool
  | text | number | name | opening _ => true
  | _ => false

mutual

/-- What follows a value. -/
def behindValue : Nat → List Token → Except Halt (List Token)
  | 0, _ => .error .misplaced
  | _, [] => .error .early
  | fuel + 1, .sign :: rest => behindValue fuel rest
  | fuel + 1, .text :: rest => behindMore fuel (rest.dropWhile (· = .text))
  | fuel + 1, .number :: rest => behindMore fuel rest
  | fuel + 1, .name :: rest => behindMore fuel rest
  | fuel + 1, .opening bracket :: rest => do
    behindMore fuel (← behindItems fuel (partner bracket) rest)
  | _, _ => .error .misplaced

/-- What follows a value with what is added to it, a name in it, or what it is called with. -/
def behindMore : Nat → List Token → Except Halt (List Token)
  | fuel + 1, .sign :: rest => behindValue fuel rest
  | fuel + 1, .dot :: .name :: rest => behindMore fuel rest
  | _, [.dot] => .error .early
  | fuel + 1, .opening '(' :: rest => do behindMore fuel (← behindItems fuel ')' rest)
  | _, rest => .ok rest

/-- What follows values between commas and the bracket behind them. -/
def behindItems : Nat → Char → List Token → Except Halt (List Token)
  | 0, _, _ => .error .misplaced
  | _, _, [] => .error .early
  | fuel + 1, closing, token :: rest =>
    if token = .closing closing then .ok rest
    else do
      match ← behindValue fuel (token :: rest) with
      | .colon :: rest =>
        if closing = ')' then .error .misplaced
        else behindItem fuel closing (← behindValue fuel rest)
      | rest => behindItem fuel closing rest

/-- What follows a comma or bracket behind a value, and further values. -/
def behindItem : Nat → Char → List Token → Except Halt (List Token)
  | _, _, [] => .error .early
  | 0, _, _ => .error .misplaced
  | fuel + 1, closing, token :: rest =>
    if token = .closing closing then .ok rest
    else if token = .comma then behindItems fuel closing rest
    else if token.beginsValue then do
      let _ ← behindValue fuel (token :: rest)
      .error .missingComma
    else .error .misplaced

end

/-- Values between commas up to the end, of which there is at least one. -/
def values : Nat → List Token → Except Halt Unit
  | 0, _ => .error .misplaced
  | fuel + 1, tokens => do
    match ← behindValue (4 * tokens.length + 4) tokens with
    | [] => return ()
    | [.comma] => return ()
    | .comma :: rest => values fuel rest
    | _ => .error .misplaced

/-- The flaw that keeps a text from being a literal, if it is none. -/
def flaw? (text : List Char) : Option Flaw :=
  match tokens [] text.length text with
  | .error flaw => some flaw
  | .ok (found, opened) =>
    match values (found.length + 1) found, opened with
    | .ok (), _ => none
    | .error .early, opening :: _ => some (.unclosed opening)
    | .error .missingComma, _ => some .missingComma
    | .error _, _ => some .misplaced

end AppSync.Console.Literal
