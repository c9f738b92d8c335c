import AppSync.Proofs.Keeps
import AppSync.Yaml.Lexer
import Mathlib.Data.List.Infix
import Mathlib.Data.List.TakeWhile

/-!
Reading parts of a YAML text: it moves on to an end of the text, and what stops it is a fault or an
escape that spells a code beyond the last character.
-/

namespace AppSync.Yaml

open Scanning

variable {α : Type} {whole : List Char} {cursor behind : Cursor}

/-- A text holds an escape of a code: a backslash, a letter, and as many digits as it asks for. -/
def HoldsEscape (whole : List Char) (code : Nat) : Prop :=
  ∃ letter digits, '\\' :: letter :: digits <:+: whole ∧
    escapeDigits? letter = some digits.length ∧ Text.hexNumber? digits = some code

/-- Why the tokens of a text end: for a fault, or for an escape beyond the last character. -/
inductive Refuses (whole : List Char) : Failure → Prop where
  | fault (fault : Fault) : Refuses whole (.fault fault)
  | character {code : Nat} (held : HoldsEscape whole code) (beyond : 0x10ffff < code) :
    Refuses whole (.accident (.character code))

/-- A cursor stands in a text if an end of the text is left. -/
def Cursor.Within (whole : List Char) (cursor : Cursor) : Prop :=
  cursor.rest <:+ whole

/-- A reader that moves within a text and fails for what is wrong with the text. -/
abbrev Sound (whole : List Char) (reader : Scanning α) : Prop :=
  Keeps (Cursor.Within whole) (Refuses whole) reader

/-! ## Cursors -/

namespace Cursor

/-- Each step drops a character, unless none is left. -/
theorem rest_step (cursor : Cursor) : cursor.step.rest = cursor.rest.drop 1 := by
  unfold step
  cases left : cursor.rest with
  | nil => simp [left]
  | cons c rest => rfl

/-- Steps drop as many characters. -/
theorem rest_steps (count : Nat) (cursor : Cursor) :
    (cursor.steps count).rest = cursor.rest.drop count := by
  induction count generalizing cursor with
  | zero => rfl
  | succ count ih => rw [steps, ih, rest_step, List.drop_drop, Nat.add_comm]

/-- The next character comes first, unless the text ends. -/
theorem rest_eq_cons (cursor : Cursor) (left : cursor.next ≠ ending) :
    cursor.rest = cursor.next :: cursor.step.rest := by
  rw [rest_step]
  unfold next at left ⊢
  cases rest : cursor.rest with
  | nil =>
    rw [rest] at left
    exact absurd rfl left
  | cons c behind => rfl

namespace Within

/-- Steps stay in the text. -/
@[grind ←]
theorem steps (within : cursor.Within whole) (count : Nat) : (cursor.steps count).Within whole := by
  unfold Within
  rw [rest_steps]
  exact (List.drop_suffix count _).trans within

/-- A step stays in the text. -/
@[grind ←]
theorem step (within : cursor.Within whole) : cursor.step.Within whole :=
  within.steps 1

/-- Skipping characters of a class stays in the text. -/
@[grind ←]
theorem skip (within : cursor.Within whole) (member : Char → Bool) :
    (cursor.skip member).Within whole :=
  within.steps _

/-- A line break stands in the text. -/
@[grind →]
theorem lineBreak {c : Char} (within : cursor.Within whole)
    (found : cursor.lineBreak? = some (c, behind)) : behind.Within whole := by
  -- A return and its feed are one break; all others are one character.
  unfold lineBreak? at found
  dsimp only at found
  split at found
  · cases found
    exact within.steps 2
  · split at found
    · cases found
      exact within.step
    · split at found
      · cases found
        exact within.step
      · cases found

/-- Skipping a line break stays in the text. -/
@[grind ←]
theorem skipBreak (within : cursor.Within whole) : cursor.skipBreak.Within whole := by
  unfold Cursor.skipBreak
  split
  · rename_i found
    exact within.lineBreak found
  · exact within

/-- Skipping a comment stays in the text. -/
@[grind ←]
theorem skipComment (within : cursor.Within whole) : cursor.skipComment.Within whole := by
  unfold Cursor.skipComment
  split
  · exact within.skip _
  · exact within

end Within

end Cursor

/-! ## Steps -/

/-- Moving on stays in the text. -/
@[grind ←]
theorem sound_advance (count : Nat) : Sound whole (advance count) :=
  .modify fun _ within => within.steps count

/-- Skipping characters of a class stays in the text. -/
@[grind ←]
theorem sound_skip (member : Char → Bool) : Sound whole (modify (Cursor.skip member)) :=
  .modify fun _ within => within.skip member

/-- Behind a number of characters a reader goes on from there. -/
theorem run_advance (count : Nat) (next : Unit → Scanning α) (cursor : Cursor) :
    (advance count >>= next).run cursor = (next ()).run (cursor.steps count) := rfl

/-- A reader that looks at the cursor goes on from it. -/
theorem run_get (next : Cursor → Scanning α) (cursor : Cursor) :
    (get >>= next).run cursor = (next cursor).run cursor := rfl

/-- Looking at the place stays where it is. -/
@[grind ←]
theorem sound_place : Sound whole place :=
  .bind .get fun _ => .pure _

/-- Looking at the next character stays where it is. -/
@[grind ←]
theorem sound_next : Sound whole next :=
  .bind .get fun _ => .pure _

/-- Taking characters of a class stays in the text. -/
@[grind ←]
theorem sound_takeWhile (member : Char → Bool) : Sound whole (takeWhile member) :=
  .bind_get fun _ within => .bind (.set (within.steps _)) fun _ => .pure _

/-- A fault may be thrown. -/
@[grind ←]
theorem sound_throw (fault : Fault) : Sound whole (throw (.fault fault) : Scanning α) :=
  .throw (.fault fault)

/-- A problem is a fault. -/
@[grind ←]
theorem sound_fail (activity : Activity) (start : Mark) (problem : Problem) :
    Sound whole (fail activity start problem : Scanning α) :=
  .bind sound_place fun _ => .throw (.fault _)

/-- Behind a problem nothing matters. -/
@[grind ←]
theorem sound_fail_bind {β : Type} (activity : Activity) (start : Mark) (problem : Problem)
    (next : β → Scanning α) : Sound whole (fail activity start problem >>= next) :=
  fun _ _ => .fault _

/-- A character that does not fit is a fault. -/
@[grind ←]
theorem sound_failAtNext (activity : Activity) (start : Mark) (expected : Expected) :
    Sound whole (failAtNext activity start expected : Scanning α) :=
  .bind sound_next fun _ => sound_fail _ _ _

/-- Requiring a character of a class stays where it is. -/
@[grind ←]
theorem sound_require (activity : Activity) (start : Mark) (expected : Expected)
    (member : Char → Bool) : Sound whole (require activity start expected member) := by
  unfold require
  grind

/-- What is left of a line is skipped within the text. -/
@[grind ←]
theorem sound_finishLine (activity : Activity) (start : Mark) :
    Sound whole (finishLine activity start) :=
  .bind (sound_skip _) fun _ => .bind (.modify fun _ within => within.skipComment) fun _ =>
    .bind (sound_require _ _ _ _) fun _ => .modify fun _ within => within.skipBreak

/-! ## Properties of nodes -/

section Properties

/-- Anchors and aliases. -/
@[grind ←]
theorem sound_scanName : Sound whole scanName := by
  unfold scanName
  grind

/-- Escaped bytes. -/
@[grind ←]
theorem sound_scanEscapedBytes (activity : Activity) (start : Mark) (fuel : Nat) :
    Sound whole (scanEscapedBytes activity start fuel) := by
  induction fuel with
  | zero => exact .pure _
  | succ fuel ih =>
    unfold scanEscapedBytes
    grind

/-- Parts of tags. -/
@[grind ←]
theorem sound_scanUriParts (activity : Activity) (start : Mark) (fuel : Nat) :
    Sound whole (scanUriParts activity start fuel) := by
  induction fuel with
  | zero => exact .pure _
  | succ fuel ih =>
    unfold scanUriParts
    grind

/-- Tags. -/
@[grind ←]
theorem sound_scanUri (activity outer : Activity) (start : Mark) :
    Sound whole (scanUri activity outer start) := by
  unfold scanUri
  grind

/-- Tag handles. -/
@[grind ←]
theorem sound_scanHandle (activity : Activity) (start : Mark) :
    Sound whole (scanHandle activity start) := by
  unfold scanHandle
  grind

/-- Tags with their handles. -/
@[grind ←]
theorem sound_scanTag : Sound whole scanTag := by
  unfold scanTag
  refine .bind sound_place fun start => .bind_get fun cursor within => ?_
  dsimp only
  -- A tag is whole in brackets, or stands alone, or follows a handle, or the sign alone.
  refine .ite (fun _ => ?_) fun _ => .ite (fun _ => ?_) fun _ => .ite (fun _ => ?_) fun _ => ?_
  · grind
  · grind
  · grind
  · grind

/-- Numbers in versions. -/
@[grind ←]
theorem sound_scanVersionNumber (start : Mark) : Sound whole (scanVersionNumber start) := by
  unfold scanVersionNumber
  grind

/-- Versions. -/
@[grind ←]
theorem sound_scanVersion (start : Mark) : Sound whole (scanVersion start) := by
  unfold scanVersion
  grind

/-- Directives about tags. -/
@[grind ←]
theorem sound_scanHandleDirective (start : Mark) : Sound whole (scanHandleDirective start) := by
  unfold scanHandleDirective
  grind

/-- Directives. -/
@[grind ←]
theorem sound_scanDirective : Sound whole scanDirective := by
  unfold scanDirective
  refine .bind sound_place fun start => .bind (sound_advance 1) fun _ => ?_
  refine .bind (sound_takeWhile _) fun name => ?_
  dsimp only
  refine .ite (fun nameless => ?_) fun named => ?_
  · grind
  · grind

end Properties

/-! ## Quoted scalars -/

section Quoted

/-- Empty lines in a quoted scalar. -/
@[grind ←]
theorem sound_scanQuotedBreaks (start : Mark) (fuel : Nat) :
    Sound whole (scanQuotedBreaks start fuel) := by
  induction fuel with
  | zero => exact .pure _
  | succ fuel ih =>
    unfold scanQuotedBreaks
    grind

/-- Blanks in a quoted scalar. -/
@[grind ←]
theorem sound_scanQuotedSpaces (start : Mark) (fuel : Nat) :
    Sound whole (scanQuotedSpaces start fuel) := by
  unfold scanQuotedSpaces
  grind

/-- Digits behind a letter that asks for as many of them make an escape. -/
theorem HoldsEscape.of_given {count code : Nat} (within : '\\' :: cursor.rest <:+ whole)
    (asked : escapeDigits? cursor.next = some count) {given : List Char}
    (begins : given <+: cursor.step.rest) (enough : given.length = count)
    (spelled : Text.hexNumber? given = some code) : HoldsEscape whole code := by
  refine ⟨cursor.next, given, ?_, by rw [asked, enough], spelled⟩
  -- The letter is a character of the text, and the digits stand behind it.
  have left : cursor.next ≠ ending := by
    intro ended
    rw [ended] at asked
    cases asked
  have written : '\\' :: cursor.next :: given <+: '\\' :: cursor.rest := by
    rw [cursor.rest_eq_cons left]
    exact List.cons_prefix_cons.mpr ⟨rfl, List.cons_prefix_cons.mpr ⟨rfl, begins⟩⟩
  exact written.isInfix.trans within.isInfix

/-- What stops an escape behind its backslash is a fault, or a code beyond the last character. -/
theorem ends_scanEscape (start : Mark) (fuel : Nat) (within : '\\' :: cursor.rest <:+ whole) :
    Ends (fun found => found.2.Within whole) (Refuses whole)
      ((scanEscape start fuel).run cursor) := by
  have inside : cursor.Within whole := (List.suffix_cons _ _).trans within
  unfold scanEscape
  rw [run_get]
  dsimp only
  split
  · exact inside.steps 1
  · rename_i count short asked
    rw [run_advance, run_get]
    have begins : ((cursor.steps 1).rest.take count).takeWhile (fun c => (Text.hexValue? c).isSome)
        <+: (cursor.steps 1).rest := (List.takeWhile_prefix _).trans (List.take_prefix _ _)
    have bounded : (((cursor.steps 1).rest.take count).takeWhile fun c =>
        (Text.hexValue? c).isSome).length ≤ count :=
      (List.takeWhile_prefix _).length_le.trans (List.length_take_le _ _)
    generalize ((cursor.steps 1).rest.take count).takeWhile _ = given at begins bounded ⊢
    -- Only digits in full number come to a code.
    split
    · exact .fault _
    · rename_i enough
      split
      · rename_i beyond
        cases spelled : Text.hexNumber? given with
        | none =>
          rw [spelled] at beyond
          exact absurd beyond (by decide)
        | some code =>
          rw [spelled] at beyond
          exact .character (.of_given within asked begins (by omega) spelled) beyond
      · exact (inside.steps 1).steps count
  · split
    · rename_i found
      exact (sound_scanQuotedBreaks start fuel) _ (inside.lineBreak found)
    · exact .fault _

/-- Characters up to a closing quote. -/
@[grind ←]
theorem sound_scanQuotedChars (quote : Char) (start : Mark) (fuel : Nat) :
    Sound whole (scanQuotedChars quote start fuel) := by
  induction fuel with
  | zero => exact .pure _
  | succ fuel ih =>
    unfold scanQuotedChars
    intro cursor within
    rw [run_get]
    dsimp only
    split
    · refine (?_ : Sound whole _) cursor within
      grind
    · split
      · rename_i escaped
        -- The backslash stands in the text, so that an escape behind it does.
        have left : '\\' :: (cursor.steps 1).rest <:+ whole := by
          rw [← escaped.2]
          exact cursor.rest_eq_cons (by rw [escaped.2]; decide) ▸ within
        rw [run_advance, StateT.run_bind]
        refine (ends_scanEscape start fuel left).bind fun found after => ?_
        exact (Keeps.bind ih fun _ => .pure _) found.2 after
      · refine (?_ : Sound whole _) cursor within
        grind

/-- Quoted scalars. -/
@[grind ←]
theorem sound_scanQuoted : Sound whole scanQuoted := by
  unfold scanQuoted
  grind

end Quoted

/-! ## Plain scalars -/

section Plain

/-- Line breaks in a plain scalar. -/
@[grind ←]
theorem sound_scanPlainBreaks (fuel : Nat) : Sound whole (scanPlainBreaks fuel) := by
  induction fuel with
  | zero => exact .pure _
  | succ fuel ih =>
    unfold scanPlainBreaks
    grind

/-- Blanks in a plain scalar. -/
@[grind ←]
theorem sound_scanPlainSpaces (fuel : Nat) : Sound whole (scanPlainSpaces fuel) := by
  unfold scanPlainSpaces
  refine .bind (sound_takeWhile _) fun blanks => .bind_get fun cursor within => ?_
  split
  · exact .pure _
  · rename_i found
    refine .bind (.set (within.lineBreak found)) fun _ => ?_
    grind

/-- Parts of a plain scalar. -/
@[grind ←]
theorem sound_scanPlainParts (inFlow : Bool) (indent : Int) (spaces : List Char)
    (sofar : PlainPart) (fuel : Nat) :
    Sound whole (scanPlainParts inFlow indent spaces sofar fuel) := by
  induction fuel generalizing spaces sofar with
  | zero => exact .pure _
  | succ fuel ih =>
    unfold scanPlainParts
    grind

/-- Plain scalars. -/
@[grind ←]
theorem sound_scanPlain (inFlow : Bool) (indent : Int) :
    Sound whole (scanPlain inFlow indent) := by
  unfold scanPlain
  grind

end Plain

/-! ## Block scalars -/

section Block

/-- Indentation indicators. -/
@[grind ←]
theorem sound_scanIndentation (start : Mark) : Sound whole (scanIndentation start) := by
  unfold scanIndentation
  grind

/-- Chomping indicators. -/
@[grind ←]
theorem sound_scanChomping : Sound whole scanChomping := by
  unfold scanChomping
  grind

/-- Indicators of a block scalar. -/
@[grind ←]
theorem sound_scanIndicators (start : Mark) : Sound whole (scanIndicators start) := by
  unfold scanIndicators
  grind

/-- Empty lines before a block scalar. -/
@[grind ←]
theorem sound_scanLeadingLines (deepest fuel : Nat) :
    Sound whole (scanLeadingLines deepest fuel) := by
  induction fuel generalizing deepest with
  | zero => exact .pure _
  | succ fuel ih =>
    unfold scanLeadingLines
    grind

/-- Blanks before a line of a block scalar. -/
@[grind ←]
theorem sound_skipIndentation (indent : Nat) : Sound whole (skipIndentation indent) := by
  unfold skipIndentation
  grind

/-- Empty lines in a block scalar. -/
@[grind ←]
theorem sound_scanBlockBreaks (indent fuel : Nat) : Sound whole (scanBlockBreaks indent fuel) := by
  induction fuel with
  | zero => exact .pure _
  | succ fuel ih =>
    unfold scanBlockBreaks
    grind

/-- Lines of a block scalar. -/
@[grind ←]
theorem sound_scanBlockLines (folded : Bool) (chomping : Chomping) (indent : Nat)
    (breaks : List Char) (fuel : Nat) :
    Sound whole (scanBlockLines folded chomping indent breaks fuel) := by
  induction fuel generalizing breaks with
  | zero => exact .pure _
  | succ fuel ih =>
    unfold scanBlockLines
    refine .bind_get fun cursor _ => .ite (fun _ => .pure _) fun _ => ?_
    refine .bind (sound_takeWhile _) fun line => .bind_get fun ended _ => ?_
    refine .bind (.modify fun _ within => within.skipBreak) fun _ => ?_
    refine .bind (sound_scanBlockBreaks _ _) fun following => .bind_get fun after _ => ?_
    -- Further lines follow, or this one was the last.
    exact .ite (fun _ => .bind (ih _) fun _ => .pure _) fun _ => .pure _

/-- Block scalars. -/
@[grind ←]
theorem sound_scanBlock (outer : Int) : Sound whole (scanBlock outer) := by
  unfold scanBlock
  refine .bind_get fun cursor _ => .bind (sound_advance 1) fun _ => ?_
  refine .bind (sound_scanIndicators _) fun indicators => ?_
  refine .bind (sound_finishLine _ _) fun _ => ?_
  grind

end Block

end AppSync.Yaml
