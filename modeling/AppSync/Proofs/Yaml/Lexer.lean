import AppSync.Proofs.Yaml.Scanning

/-!
Taking the tokens of a YAML text: each token leaves an end of the text, and the failure behind the
last one is a fault or an escape beyond the last character.
-/

namespace AppSync.Yaml.Lexer

variable {whole : List Char} {lexer : Lexer} {lexeme : Lexeme}

/-- A step that stays in the text, or fails for what is wrong with the text. -/
abbrev Goes (whole : List Char) (result : Except Failure Lexer) : Prop :=
  Ends (fun lexer : Lexer => lexer.cursor.Within whole) (Refuses whole) result

/-! ## Changes that leave the cursor -/

section Unmoved

/-- Closing block collections leaves the cursor. -/
theorem cursor_unwind (column : Int) : (lexer.unwind column).cursor = lexer.cursor := by
  unfold unwind
  split <;> rfl

/-- Opening a block collection leaves the cursor. -/
theorem cursor_deepen? {deeper : Lexer} {column : Nat} (found : lexer.deepen? column = some deeper) :
    deeper.cursor = lexer.cursor := by
  unfold deepen? at found
  split at found
  · cases found
    rfl
  · cases found

/-- Adding the start of a block collection stays in the text. -/
theorem within_openHere (within : lexer.cursor.Within whole) (lexeme : Lexeme) :
    (lexer.openHere lexeme).cursor.Within whole := by
  unfold openHere
  split
  · rename_i found
    have same := cursor_deepen? found
    exact same ▸ within
  · exact within

/-- Confirming a key stays in the text. -/
theorem within_confirmKey (within : lexer.cursor.Within whole) (key : PossibleKey) :
    (lexer.confirmKey key).cursor.Within whole := by
  unfold confirmKey
  dsimp only
  split
  · exact within
  · split
    · rename_i found
      have same := cursor_deepen? found
      exact same ▸ within
    · exact within

end Unmoved

/-! ## Steps -/

section Steps

/-- Forgetting possible keys, of which a required one without its colon is a fault. -/
theorem goes_forget (forgotten : PossibleKey → Bool) (within : lexer.cursor.Within whole) :
    Goes whole (lexer.forget forgotten) := by
  unfold forget
  split
  · exact .error (.fault _)
  · exact .ok within

/-- Noting a possible key. -/
theorem goes_notePossibleKey (within : lexer.cursor.Within whole) :
    Goes whole lexer.notePossibleKey := by
  unfold notePossibleKey
  refine .ite (fun _ => .ok within) fun _ => ?_
  exact (goes_forget _ within).bind fun _ after => .ok after

/-- Taking a token by reading. -/
theorem goes_scan {scanning : Scanning Lexeme} (sound : Sound whole scanning)
    (within : lexer.cursor.Within whole) : Goes whole (lexer.scan scanning) :=
  Ends.bind (sound _ within) fun _ after => after

/-- Gaps are skipped within the text. -/
theorem within_skipGaps (within : lexer.cursor.Within whole) (fuel : Nat) :
    (lexer.skipGaps fuel).cursor.Within whole := by
  -- A turn skips blanks, a comment and the break behind them.
  induction fuel generalizing lexer with
  | zero => exact within
  | succ fuel ih =>
    have skipped := (within.skip (· == ' ')).skipComment
    unfold skipGaps
    dsimp only
    split
    · exact skipped
    · rename_i found
      exact ih (skipped.lineBreak found)

/-- A mark of byte order is skipped within the text. -/
theorem within_skipByteOrderMark (within : lexer.cursor.Within whole) :
    lexer.skipByteOrderMark.cursor.Within whole := by
  unfold skipByteOrderMark
  split
  · exact within.step
  · exact within

/-- Ending block collections. -/
theorem goes_endBlocks (within : lexer.cursor.Within whole) : Goes whole lexer.endBlocks := by
  unfold endBlocks
  refine Ends.bind (goes_forget _ ?_) fun _ after => .ok after
  rwa [cursor_unwind]

/-- Ending a possible key, and taking a token of a number of characters. -/
theorem goes_forgetHere_take (count : Nat) (lexeme : Lexeme)
    (within : lexer.cursor.Within whole) :
    Goes whole (do return (← lexer.forgetHere).take count lexeme) :=
  (goes_forget _ within).bind fun _ after => .ok (after.steps count)

end Steps

/-! ## Tokens -/

section Tokens

variable (within : lexer.cursor.Within whole)

include within

/-- The end of the text. -/
theorem goes_takeStreamEnd : Goes whole lexer.takeStreamEnd :=
  (goes_endBlocks within).bind fun _ after => .ok after

/-- Directives. -/
theorem goes_takeDirective : Goes whole lexer.takeDirective :=
  (goes_endBlocks within).bind fun _ after =>
    goes_scan (.bind sound_scanDirective fun _ => .pure _) after

/-- Starts and ends of documents. -/
theorem goes_takeDocumentMark (lexeme : Lexeme) : Goes whole (lexer.takeDocumentMark lexeme) :=
  (goes_endBlocks within).bind fun _ after => .ok (after.steps 3)

/-- Opening brackets. -/
theorem goes_takeOpening (lexeme : Lexeme) : Goes whole (lexer.takeOpening lexeme) :=
  (goes_notePossibleKey within).bind fun _ after => .ok (after.steps 1)

/-- Closing brackets. -/
theorem goes_takeClosing (lexeme : Lexeme) : Goes whole (lexer.takeClosing lexeme) :=
  (goes_forget _ within).bind fun _ after => .ok (after.steps 1)

/-- Commas. -/
theorem goes_takeFlowEntry : Goes whole lexer.takeFlowEntry :=
  goes_forgetHere_take 1 .flowEntry within

/-- Signs of list items. -/
theorem goes_takeBlockEntry : Goes whole lexer.takeBlockEntry := by
  unfold takeBlockEntry
  refine .ite (fun _ => .error (.fault _)) fun _ => goes_forgetHere_take 1 .blockEntry ?_
  split
  · exact within_openHere within _
  · exact within

/-- Signs of keys. -/
theorem goes_takeKey : Goes whole lexer.takeKey := by
  unfold takeKey
  refine .ite (fun _ => .error (.fault _)) fun _ => goes_forgetHere_take 1 .key ?_
  split
  · exact within_openHere within _
  · exact within

/-- Signs of values. -/
theorem goes_takeValue : Goes whole lexer.takeValue := by
  unfold takeValue
  split
  · rename_i key _
    have confirmed := within_confirmKey within key
    exact .ok (confirmed.steps 1)
  · refine .ite (fun _ => .error (.fault _)) fun _ => goes_forgetHere_take 1 .value ?_
    split
    · exact within_openHere within _
    · exact within

/-- Tokens that may begin a key. -/
theorem goes_takeNode {scanning : Scanning Lexeme} (sound : Sound whole scanning) :
    Goes whole (lexer.takeNode scanning) :=
  (goes_notePossibleKey within).bind fun _ after => goes_scan sound after

/-- Block scalars. -/
theorem goes_takeBlockScalar : Goes whole lexer.takeBlockScalar :=
  Ends.bind (goes_forget _ within) fun _ after => goes_scan (sound_scanBlock _) after

/-- Plain scalars. -/
theorem goes_takePlain : Goes whole lexer.takePlain :=
  (goes_notePossibleKey within).bind fun _ after =>
    Ends.bind (sound_scanPlain _ _ _ after) fun _ behind => behind

/-- The token that comes next, whatever it begins with. -/
theorem goes_takeToken : Goes whole lexer.takeToken := by
  unfold takeToken
  dsimp only
  -- In the order in which the scanner asks what the next character begins.
  refine .ite (fun _ => goes_takeStreamEnd within) fun _ => ?_
  refine .ite (fun _ => goes_takeDirective within) fun _ => ?_
  refine .ite (fun _ => goes_takeDocumentMark within _) fun _ => ?_
  refine .ite (fun _ => goes_takeDocumentMark within _) fun _ => ?_
  refine .ite (fun _ => goes_takeOpening within _) fun _ => ?_
  refine .ite (fun _ => goes_takeOpening within _) fun _ => ?_
  refine .ite (fun _ => goes_takeClosing within _) fun _ => ?_
  refine .ite (fun _ => goes_takeClosing within _) fun _ => ?_
  refine .ite (fun _ => goes_takeFlowEntry within) fun _ => ?_
  refine .ite (fun _ => goes_takeBlockEntry within) fun _ => ?_
  refine .ite (fun _ => goes_takeKey within) fun _ => ?_
  refine .ite (fun _ => goes_takeValue within) fun _ => ?_
  refine .ite (fun _ => goes_takeNode within sound_scanName) fun _ => ?_
  refine .ite (fun _ => goes_takeNode within sound_scanTag) fun _ => ?_
  refine .ite (fun _ => goes_takeBlockScalar within) fun _ => ?_
  refine .ite (fun _ => goes_takeNode within sound_scanQuoted) fun _ => ?_
  exact .ite (fun _ => goes_takePlain within) fun _ => .error (.fault _)

/-- The next token behind gaps. -/
theorem goes_next : Goes whole lexer.next := by
  unfold next
  dsimp only
  refine Ends.bind (goes_forget _ ?_) fun behind after => ?_
  · exact within_skipGaps (within_skipByteOrderMark within) _
  · refine Ends.bind (goes_takeToken ?_) fun _ taken => goes_forget _ taken
    rwa [cursor_unwind]

end Tokens

/-- The failure behind the tokens is one of the text, from wherever they are taken. -/
theorem refuses_runFrom {fuel : Nat} {failure : Failure} (within : lexer.cursor.Within whole)
    (failed : (lexer.runFrom fuel).2 = some failure) : Refuses whole failure := by
  -- Each token is taken within the text, up to the one that fails.
  induction fuel generalizing lexer with
  | zero => cases failed
  | succ fuel ih =>
    unfold runFrom at failed
    split at failed
    · cases failed
    · have goes := goes_next within
      split at failed
      · rename_i ended
        cases failed
        exact goes.of_error ended
      · rename_i behind taken
        exact ih (goes.of_ok taken) failed

end AppSync.Yaml.Lexer

namespace AppSync.Yaml

/-- The failure behind the tokens of a text is a fault, or an escape beyond the last character. -/
theorem refuses_tokens {text : List Char} {failure : Failure}
    (failed : (tokens text).2 = some failure) : Refuses text failure := by
  refine Lexer.refuses_runFrom ?_ failed
  exact List.suffix_refl text

end AppSync.Yaml
