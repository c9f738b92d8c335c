import AppSync.Json.Reader
import AppSync.Sdl.Token

/-! Splitting a schema document into tokens. -/

namespace AppSync.Sdl

/-- Characters that may begin a name. -/
def isNameStart (c : Char) : Bool :=
  c.isAlpha || c == '_'

/-- Characters that may go on in a name. -/
def isNamePart (c : Char) : Bool :=
  isNameStart c || c.isDigit

/-- A character number that is no surrogate and not too large. -/
def isScalarValue (point : Nat) : Bool :=
  point ≤ 0xd7ff || (0xe000 ≤ point && point ≤ 0x10ffff)

/-- Puts a character in front of the string that is read. -/
def consChar (c : Char) :
    Except LexicalFault (List Char × List Char) → Except LexicalFault (List Char × List Char)
  | .ok (value, rest) => .ok (c :: value, rest)
  | .error fault => .error fault

/-- The fault of an escape that begins with the letter for numbers. -/
def badEscape (written : List Char) : LexicalFault :=
  .unicodeEscape (String.ofList ('\\' :: 'u' :: written))

/-- The fault of a character with what follows it; a pair of halves counts as one character. -/
def faultOf (fault : Char → LexicalFault) (c : Char) (rest : List Char) : LexicalFault :=
  if Text.isHighHalf (Text.codeOf c) then
    match rest with
    | [] => .loneHalf true
    | d :: _ =>
      if Text.isPair c d then fault (Char.ofNat (Text.pairCode (Text.codeOf c) (Text.codeOf d)))
      else .loneHalf false
  else fault c

mutual
/-- The value of a string after its opening quote, and the text after its closing one. -/
def lexString : List Char → Except LexicalFault (List Char × List Char)
  | [] => .error .unterminated
  | c :: rest =>
    if c = '"' then .ok ([], rest)
    else if c = '\\' then
      match rest with
      | [] => .error (.characterEscape "\\")
      | d :: rest =>
        if d = 'u' then lexNumbered rest
        else
          match Json.shortMeaning? d with
          | none => .error (.characterEscape (String.ofList ['\\', d]))
          | some meaning => consChar meaning (lexString rest)
    else if c = '\n' ∨ c = '\r' then .error .unterminated
    -- A half of a character is admitted only with the other half behind it.
    else if !Text.carriesHalf c then consChar c (lexString rest)
    else
      match rest with
      | d :: others =>
        if Text.isPair c d then consChar c (consChar d (lexString others))
        else .error (faultOf .strayHalf c rest)
      | [] => .error (faultOf .strayHalf c [])

/-- The rest of a string behind the letter of an escape by number. -/
def lexNumbered : List Char → Except LexicalFault (List Char × List Char)
  | '\x7b' :: rest => lexBraced [] 0 rest
  | a :: b :: c :: d :: rest =>
    match Json.unit? a b c d with
    | none => .error (badEscape [a, b, c, d])
    | some unit =>
      if isScalarValue unit then consChar (Char.ofNat unit) (lexString rest)
      else
        -- A high surrogate has to be followed by a low one; together they number a character.
        match rest with
        | '\\' :: 'u' :: e :: f :: g :: h :: rest =>
          match Json.unit? e f g h with
          | none => .error (badEscape [a, b, c, d])
          | some low =>
            if unit < 0xdc00 ∧ 0xdc00 ≤ low ∧ low ≤ 0xdfff then
              consChar (Char.ofNat (Text.pairCode unit low)) (lexString rest)
            else .error (badEscape [a, b, c, d])
        | _ => .error (badEscape [a, b, c, d])
  | rest => .error (badEscape (rest.take 4))

/-- The rest of a string inside the braces of an escape, after the characters seen there. -/
def lexBraced (seen : List Char) (point : Nat) :
    List Char → Except LexicalFault (List Char × List Char)
  | [] => .error (badEscape ('\x7b' :: seen))
  | c :: rest =>
    -- Eight digits and the closing brace are the most that is looked at.
    if seen.length = 9 then .error (badEscape ('\x7b' :: seen))
    else if c = '\x7d' then
      if seen ≠ [] ∧ isScalarValue point then consChar (Char.ofNat point) (lexString rest)
      else .error (badEscape ('\x7b' :: seen ++ [c]))
    else
      match Text.hexValue? c with
      | none => .error (badEscape ('\x7b' :: seen ++ [c]))
      | some digit => lexBraced (seen ++ [c]) (16 * point + digit) rest
end

/-- Puts characters in front of the first line. -/
def consLine (written : List Char) : List (List Char) → List (List Char)
  | [] => [written]
  | line :: more => (written ++ line) :: more

/-- The raw lines of a block string after its opening quotes, and the text after its closing ones. -/
def lexBlock : List Char → Except LexicalFault (List (List Char) × List Char)
  | [] => .error .unterminated
  | '"' :: '"' :: '"' :: rest => .ok ([[]], rest)
  | '\\' :: '"' :: '"' :: '"' :: rest =>
    (lexBlock rest).map fun found => (consLine ['"', '"', '"'] found.1, found.2)
  | '\r' :: '\n' :: rest => (lexBlock rest).map fun found => ([] :: found.1, found.2)
  | c :: rest =>
    if c = '\n' ∨ c = '\r' then (lexBlock rest).map fun found => ([] :: found.1, found.2)
    else if !Text.carriesHalf c then
      (lexBlock rest).map fun found => (consLine [c] found.1, found.2)
    else
      match rest with
      | d :: others =>
        if Text.isPair c d then
          (lexBlock others).map fun found => (consLine [c, d] found.1, found.2)
        else .error (faultOf .strayHalf c rest)
      | [] => .error (faultOf .strayHalf c [])

/-- Blanks and tabs. -/
def isIndent (c : Char) : Bool :=
  c == ' ' || c == '\t'

/-- The width of a line's indentation. -/
def indentWidth (line : List Char) : Nat :=
  (line.takeWhile isIndent).length

/-- Lines that hold nothing but their indentation. -/
def isBlankLine (line : List Char) : Bool :=
  line.all isIndent

/-- The least indentation of the lines that are not blank, if there is such a line. -/
def commonIndent? (lines : List (List Char)) : Option Nat :=
  ((lines.filter fun line => !isBlankLine line).map indentWidth).min?

/-- Lines without the indentation that all but the first share, and without blank ones at the ends. -/
def dedent : List (List Char) → List (List Char)
  | [] => []
  | first :: others =>
    let width := commonIndent? others
    let shifted := first :: others.map fun line =>
      match width with
      | some width => line.drop width
      | none => []
    ((shifted.dropWhile isBlankLine).reverse.dropWhile isBlankLine).reverse

/-- Lines joined by line feeds. -/
def joinLines (lines : List (List Char)) : List Char :=
  ['\n'].intercalate lines

/-- Splits off digits, of which there has to be one. -/
def lexDigits (text : List Char) : Except LexicalFault (List Char × List Char) :=
  match text with
  | c :: rest =>
    if c.isDigit then .ok (text.takeWhile Char.isDigit, text.dropWhile Char.isDigit)
    else .error (faultOf (fun c => .digitExpected (some c)) c rest)
  | [] => .error (.digitExpected none)

/-- The whole part of a number: a single zero, or digits. -/
def lexWhole (text : List Char) : Except LexicalFault (List Char × List Char) :=
  match text with
  | '0' :: c :: rest =>
    if c.isDigit then .error (.digitAfterZero c) else .ok (['0'], c :: rest)
  | _ => lexDigits text

/-- The fraction of a number with its point, if there is one. -/
def lexFraction (text : List Char) : Except LexicalFault (List Char × List Char) :=
  match text with
  | '.' :: rest => (lexDigits rest).map fun found => ('.' :: found.1, found.2)
  | _ => .ok ([], text)

/-- The exponent of a number with its letter, if there is one. -/
def lexExponent (text : List Char) : Except LexicalFault (List Char × List Char) :=
  match text with
  | c :: rest =>
    if c = 'e' ∨ c = 'E' then
      match rest with
      | sign :: more =>
        if sign = '+' ∨ sign = '-' then
          (lexDigits more).map fun found => (c :: sign :: found.1, found.2)
        else (lexDigits rest).map fun found => (c :: found.1, found.2)
      | [] => .error (.digitExpected none)
    else .ok ([], text)
  | [] => .ok ([], text)

/-- A number, which no name and no point may follow. -/
def lexNumber (text : List Char) : Except LexicalFault (Token × List Char) := do
  let (sign, unsigned) := match text with
    | '-' :: rest => (['-'], rest)
    | _ => ([], text)
  let (whole, rest) ← lexWhole unsigned
  let (fraction, rest) ← lexFraction rest
  let (exponent, rest) ← lexExponent rest
  let written := String.ofList (sign ++ whole ++ fraction ++ exponent)
  let token := if fraction = [] ∧ exponent = [] then Token.integer written else .decimal written
  match rest with
  | c :: _ => if c = '.' ∨ isNameStart c then .error (.digitExpected (some c)) else .ok (token, rest)
  | [] => .ok (token, rest)

/-- A token at a character that is neither blank nor the start of a comment. -/
def lexToken : List Char → Except LexicalFault (Token × List Char)
  | [] => .ok (.finish, [])
  -- The longest beginning is tried first: three quotes or points before a single one.
  | '"' :: '"' :: '"' :: rest =>
    (lexBlock rest).map fun found =>
      (.block (String.ofList (joinLines (dedent found.1))), found.2)
  | '"' :: rest => (lexString rest).map fun found => (.string (String.ofList found.1), found.2)
  | '.' :: '.' :: '.' :: rest => .ok (.mark .spread, rest)
  | '.' :: '.' :: _ => .error .twoDots
  | '.' :: rest =>
    let digits := rest.takeWhile Char.isDigit
    if digits = [] then .error (.strayCharacter '.')
    else .error (.bareFraction (String.ofList digits))
  | c :: rest =>
    match Mark.ofChar? c with
    | some mark => .ok (.mark mark, rest)
    | none =>
      if c.isDigit ∨ c = '-' then lexNumber (c :: rest)
      else if isNameStart c then
        .ok (.name (String.ofList ((c :: rest).takeWhile isNamePart)),
          (c :: rest).dropWhile isNamePart)
      else if c = '\'' then .error .singleQuote
      else .error (faultOf .strayCharacter c rest)

/-- Characters that separate tokens and mean nothing. -/
def isSeparator (c : Char) : Bool :=
  c == ' ' || c == '\t' || c == ',' || c == '\ufeff' || c == '\n' || c == '\r'

/-- Whether a character ends a comment. -/
def endsComment (c : Char) : Bool :=
  c == '\n' || c == '\r'

/-- Text after separators and comments; the flag tells that a comment is being skipped. -/
def skipIgnored : Bool → List Char → List Char
  | _, [] => []
  | true, c :: rest =>
    if !Text.carriesHalf c then skipIgnored (!endsComment c) rest
    else
      match rest with
      | d :: others => if Text.isPair c d then skipIgnored true others else c :: rest
      | [] => [c]
  | false, c :: rest =>
    if isSeparator c then skipIgnored false rest
    else if c = '#' then skipIgnored true rest
    else c :: rest

/-- The tokens of a text, each of which takes a character at least, up to the end or a fault. -/
def lexFrom : Nat → List Char → List Token
  | 0, _ => [.finish]
  | fuel + 1, text =>
    match lexToken (skipIgnored false text) with
    | .error fault => [.invalid fault]
    | .ok (.finish, _) => [.finish]
    | .ok (token, rest) => token :: lexFrom fuel rest

/-- The tokens of a text. -/
def lex (text : List Char) : List Token :=
  lexFrom (text.length + 1) text

end AppSync.Sdl
