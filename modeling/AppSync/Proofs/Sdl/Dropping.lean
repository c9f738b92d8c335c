import AppSync.Proofs.Sdl.Seen
import AppSync.Sdl.Check

/-!
Texts in which parentheses around blanks are dropped: what is left of a quoted text, of the mark of
a deprecated member and of a description.
-/

namespace AppSync.Sdl

variable {held front text rest : List Char}

/-- Any character but an opening parenthesis is kept. -/
theorem dropEmptyFrom_other {c : Char} (other : c ≠ '(') (rest : List Char) :
    dropEmptyFrom none (c :: rest) = c :: dropEmptyFrom none rest := by
  rw [dropEmptyFrom, if_neg other]

/-- A parenthesis that closes on more than blanks is kept. -/
theorem dropEmptyFrom_opened (opened : Opened text) :
    dropEmptyFrom (some held) text = held ++ dropEmptyFrom none text := by
  -- The blanks behind the parenthesis are held with it, up to what closes no empty pair.
  induction text generalizing held with
  | nil => simp [dropEmptyFrom]
  | cons c text ih =>
    cases blank : Text.isBlank c with
    | true =>
      have seen : c ≠ '(' ∧ c ≠ ')' := by
        constructor <;> rintro rfl <;> exact absurd blank (by decide)
      have behind : Opened text := by
        rwa [Opened, List.dropWhile_cons_of_pos blank] at opened
      rw [dropEmptyFrom_other seen.1, dropEmptyFrom, if_neg seen.2, if_neg seen.1, if_pos blank,
        ih behind, List.append_assoc]
      rfl
    | false =>
      have closed : c ≠ ')' := by
        refine opened c ?_
        rw [List.dropWhile_cons_of_neg (by simp [blank])]
        rfl
      rw [dropEmptyFrom, dropEmptyFrom, if_neg closed]
      split
      · rfl
      · rw [if_neg (by simp [blank])]

/-- What closes no parenthesis in front of it does not change what is dropped there. -/
theorem dropEmptyFrom_append (opened : Opened rest) (state : Option (List Char))
    (front : List Char) :
    dropEmptyFrom state (front ++ rest) = dropEmptyFrom state front ++ dropEmptyFrom none rest := by
  -- What is held at the end of the front is kept; until then each step is the same.
  induction state, front using dropEmptyFrom.induct with
  | case1 => rfl
  | case2 held => rw [List.nil_append, dropEmptyFrom_opened opened, dropEmptyFrom]
  | case3 front ih => simpa [dropEmptyFrom] using ih
  | case4 c front other ih =>
    rw [List.cons_append, dropEmptyFrom_other other, dropEmptyFrom_other other, ih]
    rfl
  | case5 held front ih => simpa [dropEmptyFrom] using ih
  | case6 held front other ih => simpa [dropEmptyFrom] using ih
  | case7 held c front close other blank ih => simpa [dropEmptyFrom, close, other, blank] using ih
  | case8 held c front close other filled ih => simpa [dropEmptyFrom, close, other, filled] using ih

/-- What is held at the end of a text is kept. -/
theorem dropEmptyFrom_nil (state : Option (List Char)) :
    dropEmptyFrom state [] = state.getD [] := by
  cases state <;> rfl

/-- A character is kept behind what was held, held with it or instead of it, or dropped with it. -/
theorem exists_dropEmptyFrom_cons (state : Option (List Char)) (c : Char) :
    ∃ (kept : List Char) (next : Option (List Char)),
      (kept ++ next.getD []).Sublist (state.getD [] ++ [c]) ∧
      ∀ rest, dropEmptyFrom state (c :: rest) = kept ++ dropEmptyFrom next rest := by
  cases state with
  | none =>
    by_cases seen : c = '('
    · exact ⟨[], some [c], by simp, fun rest => by simp [dropEmptyFrom, seen]⟩
    · exact ⟨[c], none, by simp, fun rest => dropEmptyFrom_other seen rest⟩
  | some held =>
    -- What is held goes away with a closing parenthesis only.
    by_cases close : c = ')'
    · exact ⟨[], none, by simp, fun rest => by simp [dropEmptyFrom, close]⟩
    by_cases seen : c = '('
    · exact ⟨held, some [c], by simp, fun rest => by simp [dropEmptyFrom, seen]⟩
    by_cases blank : Text.isBlank c = true
    · exact ⟨[], some (held ++ [c]), by simp, fun rest => by
        simp [dropEmptyFrom, close, seen, blank]⟩
    · exact ⟨held ++ [c], none, by simp, fun rest => by
        simp [dropEmptyFrom, close, seen, blank]⟩

/-- Nothing is put into a text by dropping parentheses. -/
theorem sublist_dropEmptyFrom (state : Option (List Char)) (text : List Char) :
    (dropEmptyFrom state text).Sublist (state.getD [] ++ text) := by
  -- Each step leaves no more than was held and the character that was read.
  induction text generalizing state with
  | nil => simp [dropEmptyFrom_nil]
  | cons c text ih =>
    obtain ⟨kept, next, part, step⟩ := exists_dropEmptyFrom_cons state c
    have behind := (List.Sublist.refl kept).append (ih next)
    have whole := part.append (List.Sublist.refl text)
    rw [List.append_assoc] at whole
    rw [step]
    simpa using behind.trans whole

/-- Texts are seen without parentheses around blanks. -/
def View.dropping : View where
  see := dropEmptyArguments
  nothing := rfl
  other rest other := dropEmptyFrom_other other rest
  opening opened := dropEmptyFrom_opened opened
  quote front rest := by
    have opened : Opened ('"' :: rest) := by
      rintro c ⟨⟩
      decide
    have other := dropEmptyFrom_append opened none front
    rw [dropEmptyFrom_other (by decide)] at other
    exact other

/-- What is seen is what is left. -/
theorem View.see_dropping (text : List Char) : dropping.see text = dropEmptyArguments text :=
  rfl

/-- Where every parenthesis closes on more than blanks, nothing is dropped. -/
theorem dropEmptyArguments_of_opened {text : List Char}
    (opened : ∀ front rest, text = front ++ '(' :: rest → Opened rest) :
    dropEmptyArguments text = text := by
  -- A parenthesis is kept as what follows it closes on more than blanks.
  induction text with
  | nil => rfl
  | cons c text ih =>
    have behind := ih fun front rest parted => opened (c :: front) rest (by rw [parted]; rfl)
    by_cases seen : c = '('
    · subst seen
      have kept := View.dropping.opening (opened [] text rfl)
      rw [View.see_dropping, View.see_dropping, behind] at kept
      exact kept
    · rw [dropEmptyArguments, dropEmptyFrom_other seen]
      exact congrArg (c :: ·) behind

/-- No digit of an escape is a parenthesis. -/
theorem free_hexFixed (width value : Nat) : '(' ∉ Text.hexFixed width value := by
  have each : ∀ digit < 16, '(' ≠ Text.hexDigit digit := by decide
  induction width generalizing value with
  | zero => simp [Text.hexFixed]
  | succ width ih => simp [Text.hexFixed, ih, each _ (Nat.mod_lt value (by decide))]

/-- A character of a quoted text stands for itself or is escaped behind a backslash. -/
theorem escapeAscii_cases (c : Char) : Json.escapeAscii c = [c] ∨
    ∃ tail, Json.escapeAscii c = '\\' :: tail ∧ '(' ∉ tail := by
  have units (unit : Nat) : '(' ∉ Json.unitEscape unit := by
    simp [Json.unitEscape, free_hexFixed]
  unfold Json.escapeAscii
  cases escaped : Json.shortEscape? c with
  | some short =>
    refine .inr ⟨[short], rfl, ?_⟩
    obtain ⟨meant, -⟩ := Json.shortMeaning?_shortEscape? escaped
    rintro member
    cases List.mem_singleton.mp member
    cases meant
  | none =>
    dsimp only
    split
    · exact .inl rfl
    · -- One unit or two are written by their numbers.
      obtain ⟨unit, others, same⟩ : ∃ unit others, Json.units16 c = unit :: others := by
        unfold Json.units16
        dsimp only
        split <;> exact ⟨_, _, rfl⟩
      rw [same]
      refine .inr ⟨'u' :: Text.hexFixed 4 unit ++ others.flatMap Json.unitEscape, rfl, ?_⟩
      simp [free_hexFixed, units]

/-- An escape is kept behind what was held. -/
theorem dropEmptyFrom_escape {tail : List Char} (free : '(' ∉ tail) (state : Option (List Char))
    (rest : List Char) : dropEmptyFrom state ('\\' :: tail ++ rest) =
      state.getD [] ++ ('\\' :: tail ++ dropEmptyFrom none rest) := by
  have without : '(' ∉ '\\' :: tail := by simp [free]
  have onward : dropEmptyFrom none ('\\' :: tail ++ rest) =
      '\\' :: tail ++ dropEmptyFrom none rest :=
    View.dropping.see_append without rest
  cases state with
  | none => exact onward
  | some held =>
    -- A backslash is no blank, so that what was held in front of it is kept.
    have opened : Opened ('\\' :: tail ++ rest) := by
      intro c first
      cases first
      decide
    rw [dropEmptyFrom_opened opened, onward]
    rfl

/-- Characters that stand for themselves make the body of a quoted text as they are. -/
theorem flatMap_escapeAscii_eq {text : List Char}
    (plain : ∀ c ∈ text, Json.escapeAscii c = [c]) : text.flatMap Json.escapeAscii = text := by
  induction text with
  | nil => rfl
  | cons c text ih =>
    rw [List.flatMap_cons, plain c List.mem_cons_self,
      ih fun d member => plain d (List.mem_cons_of_mem c member)]
    rfl

/-- Dropping parentheses in the body of a quoted text leaves the body of another one. -/
theorem exists_dropEmptyFrom_escaped (text : List Char) (state : Option (List Char))
    (plain : ∀ c ∈ state.getD [], Json.escapeAscii c = [c]) :
    ∃ kept : List Char, kept.Sublist (state.getD [] ++ text) ∧
      dropEmptyFrom state (text.flatMap Json.escapeAscii) = kept.flatMap Json.escapeAscii := by
  -- Only what stands for itself is held or dropped, so no escape is cut.
  induction text generalizing state with
  | nil =>
    refine ⟨state.getD [], by simp, ?_⟩
    rw [List.flatMap_nil, dropEmptyFrom_nil, flatMap_escapeAscii_eq plain]
  | cons c text ih =>
    rw [List.flatMap_cons]
    rcases escapeAscii_cases c with itself | ⟨tail, escaped, free⟩
    · obtain ⟨front, next, part, step⟩ := exists_dropEmptyFrom_cons state c
      have each : ∀ d ∈ front ++ next.getD [], Json.escapeAscii d = [d] := by
        intro d member
        rcases List.mem_append.mp (part.subset member) with old | new
        · exact plain d old
        · rw [List.mem_singleton.mp new]
          exact itself
      obtain ⟨kept, below, same⟩ := ih next fun d member => each d (List.mem_append_right _ member)
      have stays := flatMap_escapeAscii_eq fun d member => each d (List.mem_append_left _ member)
      refine ⟨front ++ kept, ?_, ?_⟩
      · have behind := (List.Sublist.refl front).append below
        have whole := part.append (List.Sublist.refl text)
        rw [List.append_assoc] at whole
        simpa using behind.trans whole
      · rw [itself, List.singleton_append, step, same, List.flatMap_append, stays]
    · obtain ⟨kept, below, same⟩ := ih none (by simp)
      refine ⟨state.getD [] ++ c :: kept, (List.Sublist.refl _).append (below.cons_cons c), ?_⟩
      rw [escaped, dropEmptyFrom_escape free, same, List.flatMap_append, List.flatMap_cons,
        escaped, flatMap_escapeAscii_eq plain]

/-- A quoted text is seen as a string, whatever parentheses are in it. -/
theorem exists_showsText {value : String} (whole : Text.hasHalves value = false) :
    ∃ text, ShowsText .dropping value text := by
  obtain ⟨kept, part, same⟩ := exists_dropEmptyFrom_escaped value.toList none (by simp)
  -- What is left of the text is a part of it, and what is left of its quote the quote of it.
  have wholeKept : Text.hasHalves (String.ofList kept) = false := by
    have each := Text.carriesHalf_of_hasHalves whole
    simpa [Text.hasHalves] using fun c member => each c (part.subset member)
  refine ⟨String.ofList kept, fun rest breaks => ?_⟩
  have seen : View.dropping.see ((Json.quote value).toList ++ rest) =
      (Json.quote (String.ofList kept)).toList ++ View.dropping.see rest := by
    have written (text : String) (more : List Char) : (Json.quote text).toList ++ more =
        '"' :: (text.toList.flatMap Json.escapeAscii ++ '"' :: more) := by
      simp [Json.quote]
    rw [written, written, View.other _ _ (by decide), View.quote, String.toList_ofList, ← same]
    rfl
  rw [seen]
  exact Prints.quoted wholeKept _ breaks

/-- The mark of a deprecated member without a reason is seen without its parentheses. -/
theorem shows_bareDeprecation :
    Shows .dropping " @deprecated()".toList [.mark .at, .name "deprecated"] := by
  intro rest breaks
  have seen : View.dropping.see (" @deprecated()".toList ++ rest) =
      ' ' :: '@' :: ("deprecated".toList ++ View.dropping.see rest) := by
    rfl
  have named : Prints (' ' :: '@' :: "deprecated".toList) [.mark .at, .name "deprecated"] :=
    .separator rfl (.mark rfl (@Prints.name "deprecated" rfl))
  rw [seen]
  exact named _ breaks

end AppSync.Sdl
