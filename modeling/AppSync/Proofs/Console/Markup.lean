import AppSync.Console.Markup

/-! A text without opening brackets has no marks, so that nothing keeps it from being shown. -/

namespace AppSync.Console

/-- A mark begins with an opening bracket. -/
theorem marked?_eq_none {chars : List Char} (clear : '[' ∉ chars) : marked? chars = none := by
  unfold marked?
  split
  · rename_i tail bracket
    -- What is left behind the backslashes is part of the text.
    have inside : '[' ∈ chars.dropWhile (· == '\\') := by
      rw [bracket]
      exact List.mem_cons_self
    exact absurd ((List.dropWhile_suffix _).subset inside) clear
  · rfl

/-- Without opening brackets a text is one piece. -/
theorem pieces_plain {chars : List Char} (clear : '[' ∉ chars) (fuel position : Nat)
    (sofar : List Char) : ∃ shown, pieces position sofar fuel chars = [.plain shown] := by
  -- Each step moves a character, or a run of backslashes, to those shown before.
  induction fuel generalizing chars position sofar with
  | zero => exact ⟨sofar.reverse, rfl⟩
  | succ fuel ih =>
    cases chars with
    | nil => exact ⟨sofar.reverse, rfl⟩
    | cons c rest =>
      unfold pieces
      rw [marked?_eq_none clear]
      dsimp only
      split
      · exact ih (fun later => clear (List.mem_cons_of_mem c later)) _ _
      · exact ih (fun later => clear (List.mem_of_mem_drop later)) _ _

/-- A text without opening brackets is shown. -/
theorem exists_shownLines {markup : String} (clear : '[' ∉ markup.toList) :
    ∃ lines, shownLines markup = .ok lines := by
  obtain ⟨shown, whole⟩ := pieces_plain clear markup.length 0 []
  unfold shownLines shownWithin shownCharacters
  rw [whole]
  -- No mark is opened or closed on the way, so that there is no style to read.
  exact ⟨_, rfl⟩

end AppSync.Console
