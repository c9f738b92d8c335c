import AppSync.Proofs.Sdl.Dropping
import AppSync.Proofs.Sdl.Meaning

/-!
Descriptions that stay block strings when parentheses around blanks are dropped from them: no three
quotes meet, unless a backslash stands in front of them.
-/

namespace AppSync.Sdl

/-- Whether three quotes in a row stand behind a backslash only. -/
def isQuiet : List Char → Bool
  | '\\' :: '"' :: '"' :: '"' :: rest => isQuiet rest
  | '"' :: '"' :: '"' :: _ => false
  | _ :: rest => isQuiet rest
  | [] => true

/-- Dropping parentheses around blanks from a description puts no three quotes in a row. -/
def IsQuiet (text : Option String) (indent : String) : Prop :=
  ∀ value ∈ text, isQuiet (dropEmptyArguments (insideDescription value indent)) = true

/-- From a description that is not there nothing is dropped. -/
theorem isQuiet_none {indent : String} : IsQuiet none indent := by
  rintro value ⟨⟩

/-- A return in front of a feed is one break with it. -/
theorem lexBlock_return (rest : List Char) :
    lexBlock ('\r' :: '\n' :: rest) = lexBlock ('\n' :: rest) := by
  rw [lexBlock.eq_4, lexBlock_line (.inl rfl) fun _ same => absurd same (by decide)]

/-- A feed behind a text makes no quotes of it that are not there. -/
theorem InBlock.of_feed {c : Char} {text : List Char}
    (escapes : ∀ more, c = '\\' → text ≠ '"' :: '"' :: '"' :: more)
    (closes : ∀ more, c = '"' → text ≠ '"' :: '"' :: more) (tail : List Char) :
    InBlock c (text ++ '\n' :: tail) := by
  -- A text that is too short for the quotes meets the feed.
  constructor
  · intro more quote same
    match text, closes with
    | [], _ => simp at same
    | [a], _ => simp at same
    | a :: b :: text, closes =>
      simp only [List.cons_append, List.cons.injEq] at same
      exact closes text quote (by rw [same.1, same.2.1])
  · intro more escape same
    match text, escapes with
    | [], _ => simp at same
    | [a], _ => simp at same
    | [a, b], _ => simp at same
    | a :: b :: d :: text, escapes =>
      simp only [List.cons_append, List.cons.injEq] at same
      exact escapes text escape (by rw [same.1, same.2.1, same.2.2.1])

/-- Quiet text does not end a block string that goes on behind it with a line break. -/
theorem exists_lexBlock_quiet {text : List Char} (quiet : isQuiet text = true)
    (whole : ∀ c ∈ text, Text.carriesHalf c = false) {tail rest : List Char}
    {lines : List (List Char)} (read : lexBlock ('\n' :: tail) = .ok (lines, rest)) :
    ∃ others, lexBlock (text ++ '\n' :: tail) = .ok (others, rest) := by
  -- Read part by part as quietness is told: three quotes behind a backslash, or one character.
  -- What is made of the lines behind a character leaves the same text behind the block.
  have onward {text text' : List Char} {make : List (List Char) → List (List Char)}
      (step : lexBlock text = (lexBlock text').map fun found => (make found.1, found.2))
      (ih : ∃ others, lexBlock text' = .ok (others, rest)) :
      ∃ others, lexBlock text = .ok (others, rest) := by
    obtain ⟨others, read⟩ := ih
    exact ⟨make others, by rw [step, read]; rfl⟩
  induction text using isQuiet.induct with
  | case1 text ih =>
    rw [isQuiet] at quiet
    exact onward (lexBlock_escape _) (ih quiet fun c member => whole c (by simp [member]))
  | case2 text => simp [isQuiet] at quiet
  | case3 c text escapes closes ih =>
    rw [isQuiet.eq_3 c text escapes closes] at quiet
    have behind := ih quiet fun d member => whole d (List.mem_cons_of_mem c member)
    by_cases line : c = '\n' ∨ c = '\r'
    · by_cases paired : ∃ more, c = '\r' ∧ text ++ '\n' :: tail = '\n' :: more
      · obtain ⟨more, rfl, same⟩ := paired
        rw [same] at behind
        rwa [List.cons_append, same, lexBlock_return]
      · exact onward (lexBlock_line line fun more single same => paired ⟨more, single, same⟩) behind
    · have inBlock : InBlock c (text ++ '\n' :: tail) := .of_feed escapes closes tail
      exact onward (lexBlock_plain inBlock line (whole c List.mem_cons_self)) behind
  | case4 => exact ⟨lines, read⟩

/-- Blanks behind a text are kept. -/
theorem dropEmptyArguments_blanks {blanks : List Char}
    (blank : ∀ c ∈ blanks, Text.isBlank c = true) (text : List Char) :
    dropEmptyArguments (text ++ blanks) = dropEmptyArguments text ++ blanks := by
  have free : '(' ∉ blanks := fun member => absurd (blank '(' member) (by decide)
  have opened : Opened blanks := by
    intro c first
    rw [List.dropWhile_eq_nil_iff.mpr blank] at first
    cases first
  -- A parenthesis that is open before the blanks is not closed behind them.
  have alone : dropEmptyArguments blanks = blanks := View.dropping.see_free free
  exact (dropEmptyFrom_append opened none text).trans (congrArg _ alone)

/-- Escaping puts nothing but backslashes into a text. -/
theorem mem_of_mem_escapeQuotes {c : Char} {text : List Char} (member : c ∈ escapeQuotes text) :
    c = '\\' ∨ c ∈ text := by
  induction text using escapeQuotes.induct with
  | case1 => cases member
  | case2 text ih =>
    rw [escapeQuotes.eq_2] at member
    simp only [List.mem_cons] at member ⊢
    rcases member with slash | quote | quote | quote | member
    · exact .inl slash
    -- The quotes behind the backslash are those of the text.
    · exact .inr (.inl quote)
    · exact .inr (.inl quote)
    · exact .inr (.inl quote)
    · rcases ih member with slash | old
      · exact .inl slash
      · exact .inr (.inr (.inr (.inr old)))
  | case3 d text apart ih =>
    rw [escapeQuotes.eq_3 d text apart] at member
    rcases List.mem_cons.mp member with rfl | member
    · exact .inr List.mem_cons_self
    · exact (ih member).imp_right (List.mem_cons_of_mem d)

/-- No half of a character is put into a description by its lines and escapes. -/
theorem carriesHalf_insideDescription {text indent : String}
    (whole : Text.hasHalves text = false) (blank : ∀ c ∈ indent.toList, isIndent c = true) :
    ∀ c ∈ insideDescription text indent, Text.carriesHalf c = false := by
  have feed : Text.carriesHalf '\n' = false := Text.carriesHalf_of_small (by decide)
  have slash : Text.carriesHalf '\\' = false := Text.carriesHalf_of_small (by decide)
  intro c member
  -- Each character is a feed, a backslash or one of an indented line.
  rw [insideDescription_eq text blank] at member
  obtain ⟨line, inText, inside⟩ := List.mem_flatMap.mp member
  rcases List.mem_cons.mp inside with rfl | escaped
  · exact feed
  · rcases mem_of_mem_escapeQuotes escaped with rfl | old
    · exact slash
    · rcases mem_of_mem_indented inText old with front | ⟨inside, -⟩
      · exact (inLine_of_isIndent (blank c front)).2
      · exact Text.carriesHalf_of_hasHalves whole c inside

/-- A description is seen with its delimiters; only what is between them changes. -/
theorem see_description {text : Option String} {value : String}
    (said : text.filter (· ≠ "") = some value) {indent : String}
    (blank : ∀ c ∈ indent.toList, isIndent c = true) (rest : List Char) :
    View.dropping.see (onLines (description text indent) ++ rest) =
      '\n' :: (indent.toList ++ '"' :: '"' :: '"' ::
        (dropEmptyArguments (insideDescription value indent) ++
          '\n' :: (indent.toList ++ ['"', '"', '"']) ++ View.dropping.see rest)) := by
  have free : '(' ∉ indent.toList := fun member => absurd (blank '(' member) (by decide)
  have quotes (rest : List Char) : View.dropping.see ('"' :: rest) =
      '"' :: View.dropping.see rest := View.other _ rest (by decide)
  -- The last delimiter closes no parenthesis, and the blanks in front of it are kept.
  have cut : insideDescription value indent ++
      '\n' :: (indent.toList ++ '"' :: '"' :: '"' :: rest) =
      (insideDescription value indent ++ '\n' :: indent.toList) ++ '"' :: '"' :: '"' :: rest := by
    simp
  have blanks : ∀ c ∈ '\n' :: indent.toList, Text.isBlank c = true := by
    intro c inside
    rcases List.mem_cons.mp inside with rfl | inside
    · decide
    · rcases isIndent_iff.mp (blank c inside) with rfl | rfl <;> decide
  have kept : View.dropping.see (insideDescription value indent ++ '\n' :: indent.toList) =
      dropEmptyArguments (insideDescription value indent) ++ '\n' :: indent.toList :=
    dropEmptyArguments_blanks blanks _
  rw [onLines_description said, View.other _ _ (by decide), View.see_append _ free, quotes, quotes,
    quotes, cut, View.quote, quotes, quotes, kept]
  simp

/-- A quiet description is seen as a block string, or is not there. -/
theorem exists_showsDescription {text : Option String} (whole : IsWhole text) {indent : String}
    (blank : ∀ c ∈ indent.toList, isIndent c = true) (quiet : IsQuiet text indent) :
    ∃ description, ShowsDescription .dropping text indent description ∧
      (isDescribed text = false → description = none) := by
  cases said : text.filter (· ≠ "") with
  | none =>
    refine ⟨none, ?_, fun _ => rfl⟩
    rw [ShowsDescription, description, said]
    exact .nil
  | some value =>
    have member := (Option.mem_filter_iff.mp said).1
    have wholeKept : ∀ c ∈ dropEmptyArguments (insideDescription value indent),
        Text.carriesHalf c = false := fun c inside =>
      carriesHalf_insideDescription (whole value member) blank c
        ((sublist_dropEmptyFrom none _).subset inside)
    have separate : ∀ c ∈ indent.toList, isSeparator c = true :=
      fun c inside => isSeparator_of_isIndent (blank c inside)
    -- The block ends with its last delimiter, whatever follows it.
    have closing := @lexBlock_lines [] (List.forall_mem_nil _) rfl _ blank []
    rw [List.flatMap_nil, List.nil_append] at closing
    obtain ⟨lines, read⟩ := exists_lexBlock_quiet (quiet value member) wholeKept closing
    have extended := (ended_block _).extended read
    refine ⟨some (String.ofList (joinLines (dedent lines))), fun rest breaks => ?_,
      fun unsaid => ?_⟩
    · rw [see_description said blank]
      refine .separator rfl (.separators separate (.token (by simp) ?_ (.done _)))
      rw [lexToken.eq_2, extended (View.dropping.see rest)]
      rfl
    · rw [isDescribed, said] at unsaid
      cases unsaid

end AppSync.Sdl
