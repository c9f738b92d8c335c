/-! Keywords that are recognised whatever the case of their letters. -/

namespace AppSync.Text

/-- ASCII capitals become small letters. -/
def lowerCase (word : String) : String :=
  word.map Char.toLower

/-- The capital of a letter, where that capital is an ASCII one. -/
def capital (c : Char) : Char :=
  if c = '\u0131' then 'I' else if c = '\u017f' then 'S' else c.toUpper

/-- Every letter that has an ASCII capital becomes that capital. -/
def upperCase (word : String) : String :=
  word.map capital

/-- The first letter becomes a capital and the others become small. -/
def capitalized (word : String) : String :=
  match word.toList with
  | [] => ""
  | first :: others => String.ofList (capital first :: others.map Char.toLower)

end AppSync.Text
