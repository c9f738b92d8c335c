import AppSync.Proofs.Keeps
import AppSync.Proofs.Toml.Scalar
import AppSync.Toml.Document

/-!
Reading a text with tables ends by accident only at an integer with too many digits: everything
else that is wrong with the text is a fault. Each reader moves on to an end of the text.
-/

namespace AppSync.Toml

open Scanning

variable {α : Type} {whole : List Char} {tables : Tables}

/-- Why a text is refused: for a fault, or for an integer in it with too many digits. -/
inductive Refuses (whole : List Char) : Failure → Prop where
  | fault (fault : Fault) : Refuses whole (.fault fault)
  | long {digits : List Char} (held : HoldsDigits whole digits)
    (long : Number.digitLimit < digits.length) :
    Refuses whole (.accident (.longNumeral digits.length))

/-- A reader that moves within a text and fails for what is wrong with the text. -/
abbrev Sound (whole : List Char) (reader : Scanning α) : Prop :=
  Keeps (· <:+ whole) (Refuses whole) reader

/-- Digits in an end of a text stand in the text. -/
theorem HoldsDigits.inside {text digits : List Char} (held : HoldsDigits text digits)
    (within : text <:+ whole) : HoldsDigits whole digits := by
  obtain ⟨run, inside, rest⟩ := held
  exact ⟨run, inside.trans within.isInfix, rest⟩

section Steps

/-- Moving on stays in the text. -/
@[grind ←]
theorem sound_advance (count : Nat) : Sound whole (advance count) :=
  .modify fun rest within => (List.drop_suffix count rest).trans within

/-- Looking at the next character stays where it is. -/
@[grind ←]
theorem sound_next? : Sound whole next? :=
  .bind .get fun _ => .pure _

/-- Looking at what comes next stays where it is. -/
@[grind ←]
theorem sound_comes (start : List Char) : Sound whole (comes start) :=
  .bind .get fun _ => .pure _

/-- Taking characters of a class stays in the text. -/
@[grind ←]
theorem sound_takeWhile (member : Char → Bool) : Sound whole (takeWhile member) :=
  .bind_get fun _ within => .bind (.set ((List.dropWhile_suffix _).trans within)) fun _ => .pure _

/-- Skipping characters of a class stays in the text. -/
@[grind ←]
theorem sound_skip (member : Char → Bool) : Sound whole (skip member) :=
  .bind (sound_takeWhile member) fun _ => .pure _

/-- A problem is a fault wherever it lies. -/
@[grind ←]
theorem sound_failBefore (rest : List Char) (problem : Problem) :
    Sound whole (failBefore rest problem : Scanning α) :=
  .throw (.fault _)

/-- A problem at the place that has been reached is a fault. -/
@[grind ←]
theorem sound_fail (problem : Problem) : Sound whole (fail problem : Scanning α) :=
  .bind .get fun _ => sound_failBefore _ _

/-- The problem of a result is a fault. -/
@[grind ←]
theorem sound_orFail (result : Except Problem α) : Sound whole (orFail result) := by
  cases result with
  | ok value => exact .pure value
  | error problem => exact sound_fail problem

end Steps

/-! ## Words -/

section Words

/-- A character that is refused is a fault. -/
@[grind ←]
theorem sound_refuse (member : Char → Bool) (count : Nat) : Sound whole (refuse member count) := by
  unfold refuse
  grind

/-- Comments. -/
@[grind ←]
theorem sound_skipComment : Sound whole skipComment := by
  unfold skipComment
  grind

/-- Texts up to a delimiter. -/
@[grind ←]
theorem sound_takeUntil (delimiter : List Char) (member : Char → Bool) :
    Sound whole (takeUntil delimiter member) := by
  unfold takeUntil
  grind

/-- Characters by their codes. -/
@[grind ←]
theorem sound_takeCode (digits : Nat) : Sound whole (takeCode digits) := by
  unfold takeCode
  grind

/-- Escapes. -/
@[grind ←]
theorem sound_takeEscape (inLines : Bool) : Sound whole (takeEscape inLines) := by
  unfold takeEscape
  refine .bind (sound_advance 1) fun _ => .bind sound_next? fun c? => ?_
  cases c? with
  | none => exact sound_fail _
  | some c =>
    -- An escape hides the end of a line, or stands for a character.
    refine .bind (sound_advance 1) fun _ => .ite (fun hides => ?_) fun stands => ?_
    · grind
    · grind

/-- Strings with escapes. -/
@[grind ←]
theorem sound_takeBasic (inLines : Bool) (fuel : Nat) : Sound whole (takeBasic inLines fuel) := by
  induction fuel with
  | zero => exact sound_fail _
  | succ fuel ih =>
    unfold takeBasic
    refine .bind sound_next? fun c? => ?_
    cases c? with
    | none => exact sound_fail _
    | some c =>
      -- A quote may end the string, and anything else is followed by more of it.
      refine .ite (fun quote => ?_) fun other => ?_
      · grind
      · grind

/-- Strings with escapes on one line. -/
@[grind ←]
theorem sound_takeBasicLine : Sound whole takeBasicLine := by
  unfold takeBasicLine
  grind

/-- Strings without escapes on one line. -/
@[grind ←]
theorem sound_takeLiteralLine : Sound whole takeLiteralLine := by
  unfold takeLiteralLine
  grind

/-- Quotes at the end of a string of several lines. -/
@[grind ←]
theorem sound_takeFinalQuotes (quote : Char) : Sound whole (takeFinalQuotes quote) := by
  unfold takeFinalQuotes
  grind

/-- Strings of several lines. -/
@[grind ←]
theorem sound_takeLines (quote : Char) : Sound whole (takeLines quote) := by
  unfold takeLines
  grind

/-- Parts of keys. -/
@[grind ←]
theorem sound_takeKeyPart : Sound whole takeKeyPart := by
  unfold takeKeyPart
  grind

/-- Further parts of keys. -/
@[grind ←]
theorem sound_takeKeyParts (fuel : Nat) : Sound whole (takeKeyParts fuel) := by
  induction fuel with
  | zero => exact .pure _
  | succ fuel ih =>
    unfold takeKeyParts
    grind

/-- Keys. -/
@[grind ←]
theorem sound_takeKey : Sound whole takeKey := by
  unfold takeKey
  grind

end Words

/-! ## Values -/

section Values

/-- Gaps with a number of comments. -/
@[grind ←]
theorem sound_skipBetween (fuel : Nat) : Sound whole (skipBetween fuel) := by
  induction fuel with
  | zero => exact .pure ()
  | succ fuel ih =>
    unfold skipBetween
    grind

/-- Gaps. -/
@[grind ←]
theorem sound_skipGaps : Sound whole skipGaps := by
  unfold skipGaps
  grind

/-- Numbers, dates and times, of which only an integer with too many digits is no fault. -/
@[grind ←]
theorem sound_takeScalar : Sound whole takeScalar := by
  unfold takeScalar
  refine .bind_get fun chars within => ?_
  dsimp only
  split
  · rename_i value rest found
    have left : rest <:+ whole := (leaves_moment? chars _ found).trans within
    grind
  · -- Without a date the first of a time, a number and a special number counts.
    split
    · rename_i clock rest found
      exact .bind (.set ((leaves_time? chars _ found).trans within)) fun _ => .pure _
    · rename_i value rest _ found
      exact .bind (.set ((leaves_number? chars _ found).trans within)) fun _ => .pure _
    · rename_i accident rest _ refused
      obtain ⟨digits, held, long, rfl⟩ := holdsDigits_of_number? refused
      exact .throw (.long (held.inside within) long)
    · rename_i value rest _ _ found
      exact .bind (.set ((leaves_specialNumber? chars _ found).trans within)) fun _ => .pure _
    · exact sound_fail _

/-- Values, which call each other with less fuel. -/
theorem sound_values (fuel : Nat) :
    Sound whole (takeValue fuel) ∧ Sound whole (takeItems fuel) ∧ Sound whole (takePair fuel) ∧
      ∀ entries closed, Sound whole (takeMembers entries closed fuel) := by
  induction fuel with
  | zero => exact ⟨sound_fail _, sound_fail _, sound_fail _, fun _ _ => sound_fail _⟩
  | succ fuel ih =>
    obtain ⟨value, items, pair, members⟩ := ih
    refine ⟨?value, ?items, ?pair, fun entries closed => ?members⟩
    case value =>
      unfold takeValue
      refine .bind_get fun chars within => ?_
      -- The first characters decide on the kind of value.
      split <;> grind
    case items =>
      unfold takeItems
      refine .bind (sound_comes _) fun _ => .ite (fun ended => by grind) fun goes_on => ?_
      refine .bind value fun item => .bind sound_skipGaps fun _ => ?_
      grind
    case pair =>
      unfold takePair
      grind
    case members =>
      unfold takeMembers
      refine .bind pair fun found => ?_
      -- What comes behind the check of the key is the same whether it fails or not.
      refine .ite (fun frozen => .bind (sound_fail _) fun _ => ?_) fun free => ?_
      all_goals
        refine .bind (sound_orFail _) fun made => .bind (sound_skip _) fun _ => ?_
        refine .bind (sound_comes _) fun _ => ?_
        grind

/-- Keys with their values. -/
@[grind ←]
theorem sound_takePair (fuel : Nat) : Sound whole (takePair fuel) :=
  (sound_values fuel).2.2.1

end Values

/-! ## Statements -/

section Statements

/-- Assignments. -/
@[grind ←]
theorem sound_takeAssignment : Sound whole (takeAssignment tables) := by
  unfold takeAssignment
  refine .bind .get fun _ => .bind (sound_takePair _) fun found => ?_
  dsimp only
  grind

/-- Headers of tables. -/
@[grind ←]
theorem sound_takeTableHeader : Sound whole (takeTableHeader tables) := by
  unfold takeTableHeader
  refine .bind (sound_advance _) fun _ => .bind (sound_skip _) fun _ => ?_
  refine .bind sound_takeKey fun key => ?_
  grind

/-- Headers of tables in arrays. -/
@[grind ←]
theorem sound_takeArrayHeader : Sound whole (takeArrayHeader tables) := by
  unfold takeArrayHeader
  refine .bind (sound_advance _) fun _ => .bind (sound_skip _) fun _ => ?_
  refine .bind sound_takeKey fun key => ?_
  grind

/-- Statements of all kinds. -/
@[grind ←]
theorem sound_takeStatement (first : Char) : Sound whole (takeStatement first tables) := by
  unfold takeStatement
  grind

/-- All statements of a text. -/
theorem sound_takeStatements (fuel : Nat) : Sound whole (takeStatements tables fuel) := by
  induction fuel generalizing tables with
  | zero => exact .pure _
  | succ fuel ih =>
    unfold takeStatements
    refine .bind (sound_skip _) fun _ => .bind sound_next? fun c? => ?_
    grind

end Statements

/-- A text that is not read is refused for what is wrong with it. -/
theorem read_refuses {text : String} {failure : Failure} (refused : read text = .error failure) :
    Refuses (Text.foldPairedReturns text.toList) failure := by
  -- The fuel plays no part: failures are sound for any amount of it.
  generalize folded : Text.foldPairedReturns text.toList = chars
  have sound : Sound chars (takeStatements {} (chars.length + 1)) := sound_takeStatements _
  have ends := sound chars (List.suffix_refl chars)
  have steps : read text =
      (((takeStatements {} (chars.length + 1)).run chars).map Prod.fst).map Tables.entries := by
    rw [← folded]
    rfl
  rw [steps] at refused
  cases ended : (takeStatements {} (chars.length + 1)).run chars with
  | ok found =>
    rw [ended] at refused
    cases refused
  | error other =>
    rw [ended] at refused
    cases refused
    exact ends.of_error ended

end AppSync.Toml
