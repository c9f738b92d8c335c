/-! Words that have to be one of a fixed choice. -/

namespace AppSync

/-- A word that is none of the choices of a kind. -/
structure UnknownChoice where
  word : String
  kind : String
deriving DecidableEq, Repr

/-- The sentence that states which word fits no choice. -/
def UnknownChoice.message (unknown : UnknownChoice) : String :=
  s!"'{unknown.word}' is not a valid {unknown.kind}"

/-- The choice that a word spells exactly. -/
def chosen {α : Type} (kind : String) (spelling : α → String) (choices : List α) (word : String) :
    Except UnknownChoice α :=
  match choices.find? fun choice => spelling choice = word with
  | some choice => .ok choice
  | none => .error ⟨word, kind⟩

end AppSync
