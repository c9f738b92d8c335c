import AppSync.Text.Half

/-! Tokens of a schema document, and why a text has no further token. -/

namespace AppSync.Sdl

/-- Marks with a meaning of their own. -/
inductive Mark where
  | bang
  | dollar
  | amp
  | parenOpen
  | parenClose
  | spread
  | colon
  | equals
  | at
  | bracketOpen
  | bracketClose
  | braceOpen
  | pipe
  | braceClose
deriving DecidableEq, Repr

/-- The written form of a mark. -/
def Mark.text : Mark → String
  | .bang => "!"
  | .dollar => "$"
  | .amp => "&"
  | .parenOpen => "("
  | .parenClose => ")"
  | .spread => "..."
  | .colon => ":"
  | .equals => "="
  | .at => "@"
  | .bracketOpen => "["
  | .bracketClose => "]"
  | .braceOpen => "\x7b"
  | .pipe => "|"
  | .braceClose => "\x7d"

/-- The mark that a single character is. -/
def Mark.ofChar? : Char → Option Mark
  | '!' => some .bang
  | '$' => some .dollar
  | '&' => some .amp
  | '(' => some .parenOpen
  | ')' => some .parenClose
  | ':' => some .colon
  | '=' => some .equals
  | '@' => some .at
  | '[' => some .bracketOpen
  | ']' => some .bracketClose
  | '\x7b' => some .braceOpen
  | '|' => some .pipe
  | '\x7d' => some .braceClose
  | _ => none

/-- Why no token can be read. -/
inductive LexicalFault where
  /-- A number goes on with a digit after its leading zero. -/
  | digitAfterZero (digit : Char)
  /-- A digit is missing in a number, or a number runs into a name or a point. -/
  | digitExpected (found : Option Char)
  /-- A fraction lacks its whole part. -/
  | bareFraction (digits : String)
  /-- Two points stand for no mark. -/
  | twoDots
  /-- Strings are not written in single quotes. -/
  | singleQuote
  /-- No token begins with this character. -/
  | strayCharacter (c : Char)
  /-- A string holds a half of a character by itself. -/
  | strayHalf (c : Char)
  /-- A first half of a character has no second one behind it, and cannot be shown. -/
  | loneHalf (isLast : Bool)
  /-- A string does not end on its line, or a block string not at all. -/
  | unterminated
  /-- An escape names no character by number. -/
  | unicodeEscape (written : String)
  /-- An escape has no meaning. -/
  | characterEscape (written : String)
deriving DecidableEq, Repr

/-- Printable ASCII in quotes, other characters by number, and the end by its name. -/
def describeChar : Option Char → String
  | none => "<EOF>"
  | some c =>
    if ' ' ≤ c ∧ c ≤ '~' then "'" ++ String.singleton c ++ "'"
    else "U+" ++ (Text.hexAtLeast 4 (Text.codeOf c)).map Char.toUpper

/-- The sentence that states a lexical fault. -/
def LexicalFault.message : LexicalFault → String
  | .digitAfterZero digit =>
    "Invalid number, unexpected digit after 0: " ++ describeChar (some digit) ++ "."
  | .digitExpected found =>
    "Invalid number, expected digit but got: " ++ describeChar found ++ "."
  | .bareFraction digits =>
    s!"Invalid number, expected digit before '.', did you mean '0.{digits}'?"
  | .twoDots => "Unexpected '..', did you mean '...'?"
  | .singleQuote =>
    "Unexpected single quote character ('), did you mean to use a double quote (\")?"
  | .strayCharacter c => "Unexpected character: " ++ describeChar (some c) ++ "."
  | .strayHalf c => "Invalid character within String: " ++ describeChar (some c) ++ "."
  | .loneHalf isLast =>
    "'utf-16-le' codec can't decode bytes in position 2-3: " ++
      if isLast then "unexpected end of data" else "illegal UTF-16 surrogate"
  | .unterminated => "Unterminated string."
  | .unicodeEscape written => s!"Invalid Unicode escape sequence: '{written}'."
  | .characterEscape written => s!"Invalid character escape sequence: '{written}'."

/-- A token; `invalid` stands where the rest of a text has none, and `finish` at its end. -/
inductive Token where
  | mark (mark : Mark)
  | name (text : String)
  | integer (text : String)
  | decimal (text : String)
  | string (value : String)
  | block (value : String)
  | finish
  | invalid (fault : LexicalFault)
deriving DecidableEq, Repr

/-- How a token is referred to: its kind and, where it has one, its value. -/
def Token.describe : Token → String
  | .mark found => "'" ++ found.text ++ "'"
  | .name text => s!"Name '{text}'"
  | .integer text => s!"Int '{text}'"
  | .decimal text => s!"Float '{text}'"
  | .string value => s!"String '{value}'"
  | .block value => s!"BlockString '{value}'"
  | .finish => "<EOF>"
  | .invalid fault => fault.message

end AppSync.Sdl
