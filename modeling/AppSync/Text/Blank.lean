/-! White space of Unicode text, and texts without it at their ends. -/

namespace AppSync.Text

/-- The `White_Space` property of Unicode. -/
def isWhiteSpace (c : Char) : Bool :=
  ('\t' ≤ c && c ≤ '\r') || c == ' ' || c == '\u0085' || c == '\u00a0' || c == '\u1680' ||
    ('\u2000' ≤ c && c ≤ '\u200a') || c == '\u2028' || c == '\u2029' || c == '\u202f' ||
    c == '\u205f' || c == '\u3000'

/-- White space together with the four information separators. -/
def isBlank (c : Char) : Bool :=
  isWhiteSpace c || ('\x1c' ≤ c && c ≤ '\x1f')

/-- A list without the trailing members of a class. -/
def trimEndBy (member : Char → Bool) (text : List Char) : List Char :=
  (text.reverse.dropWhile member).reverse

/-- A list without the leading and trailing members of a class. -/
def trimBy (member : Char → Bool) (text : List Char) : List Char :=
  trimEndBy member (text.dropWhile member)

/-- A text without blanks at its ends. -/
def trim (text : String) : String :=
  String.ofList (trimBy isBlank text.toList)

/-- Texts that hold blanks only, the empty one included. -/
def isBlankText (text : String) : Bool :=
  text.toList.all isBlank

end AppSync.Text
