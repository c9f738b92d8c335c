import AppSync.Text.Blank

/-! Texts taken apart at separators. -/

namespace AppSync.Text

/-- The parts of a text between separators; a text without one is a single part. -/
def split (isSeparator : Char → Bool) : List Char → List (List Char)
  | [] => [[]]
  | c :: rest =>
    if isSeparator c then [] :: split isSeparator rest
    else
      match split isSeparator rest with
      | [] => [[c]]
      | part :: more => (c :: part) :: more

/-- The words of a text, which blanks separate. -/
def words (text : List Char) : List (List Char) :=
  (split isBlank text).filter fun word => !word.isEmpty

end AppSync.Text
