import AppSync.Proofs.Sdl.Edges

/-! A description by itself is one block string: the text without the indentation that it shares. -/

namespace AppSync.Sdl

/-- The indentation that lines share: none but a blank one has less, and one of them has no more. -/
structure SharedIndent (width : Nat) (lines : List (List Char)) : Prop where
  least : ∀ line ∈ lines, isBlankLine line = false → width ≤ indentWidth line
  met : (∃ line ∈ lines, isBlankLine line = false) →
    ∃ line ∈ lines, isBlankLine line = false ∧ indentWidth line = width

/-- The lines of a text without an indentation and without blank ends, as one text again. -/
def undented (width : Nat) (text : String) : String :=
  String.ofList (joinLines (withoutBlankEnds ((Text.lines text.toList).map (List.drop width))))

/-- Texts that are kept: feeds part their lines, the ends are not blank, and some line is flush. -/
structure IsVerbatim (text : List Char) : Prop where
  breaks : ∀ c ∈ text, Text.isLineBreak c = true → c = '\n'
  ended : text.getLast? ≠ some '\n'
  first : ∀ line ∈ (Text.lines text).head?, isBlankLine line = false
  last : ∀ line ∈ (Text.lines text).getLast?, isBlankLine line = false
  flush : ∃ c rest, c :: rest ∈ Text.lines text ∧ isIndent c = false

section Lines

variable {lines : List (List Char)}

/-- Of blank lines nothing is left. -/
theorem withoutBlankEnds_of_blank (blank : ∀ line ∈ lines, isBlankLine line = true) :
    withoutBlankEnds lines = [] := by
  rw [withoutBlankEnds, List.dropWhile_eq_nil_iff.mpr blank]
  rfl

/-- Lines that are not blank at their ends are kept. -/
theorem withoutBlankEnds_eq_self (first : ∀ line ∈ lines.head?, isBlankLine line = false)
    (last : ∀ line ∈ lines.getLast?, isBlankLine line = false) :
    withoutBlankEnds lines = lines := by
  -- Nothing is dropped from a list whose first item stays, whichever end comes first.
  have kept {items : List (List Char)} (stays : ∀ line ∈ items.head?, isBlankLine line = false) :
      items.dropWhile isBlankLine = items := by
    cases items with
    | nil => rfl
    | cons line more => exact List.dropWhile_cons_of_neg (by simp [stays line rfl])
  rw [withoutBlankEnds, kept first, kept (by rwa [List.head?_reverse]), List.reverse_reverse]

/-- Lines that nothing is dropped from are kept. -/
theorem map_drop_zero (lines : List (List Char)) : lines.map (List.drop 0) = lines :=
  List.map_id'' (fun _ => List.drop_zero) lines

/-- What a block string leaves of lines behind its quotes is there without shared indentation. -/
theorem exists_dedent_eq (lines : List (List Char)) : ∃ width, SharedIndent width lines ∧
    dedent ([] :: lines) = withoutBlankEnds (lines.map (List.drop width)) := by
  -- The quotes stand in a line of their own, which is blank.
  have opened (others : List (List Char)) :
      withoutBlankEnds ([] :: others) = withoutBlankEnds others := rfl
  cases common : commonIndent? lines with
  | none =>
    have blank : ∀ line ∈ lines, isBlankLine line = true := by
      simpa [commonIndent?, List.min?_eq_none_iff] using common
    refine ⟨0, ⟨fun line member filled => ?_, fun ⟨line, member, filled⟩ => ?_⟩, ?_⟩
    · rw [blank line member] at filled
      cases filled
    · rw [blank line member] at filled
      cases filled
    · have emptied : dedent ([] :: lines) = withoutBlankEnds ([] :: lines.map fun _ => []) := by
        rw [dedent, common]
        rfl
      rw [emptied, opened, withoutBlankEnds_of_blank (by simp [isBlankLine]), map_drop_zero,
        withoutBlankEnds_of_blank blank]
  | some width =>
    obtain ⟨met, least⟩ := List.min?_eq_some_iff.mp common
    have filled {line : List Char} (member : line ∈ lines) (filled : isBlankLine line = false) :
        indentWidth line ∈ (lines.filter fun line => !isBlankLine line).map indentWidth :=
      List.mem_map_of_mem (List.mem_filter.mpr ⟨member, by simp [filled]⟩)
    refine ⟨width, ⟨fun line member own => least _ (filled member own), fun _ => ?_⟩, ?_⟩
    · obtain ⟨line, member, width⟩ := List.mem_map.mp met
      obtain ⟨member, own⟩ := List.mem_filter.mp member
      exact ⟨line, member, by simpa using own, width⟩
    · rw [dedent, common]
      exact opened _

end Lines

/-- Lines that are parted by feeds are those of the text that they are joined to. -/
theorem joinLines_lines {text : List Char}
    (breaks : ∀ c ∈ text, Text.isLineBreak c = true → c = '\n')
    (ended : text.getLast? ≠ some '\n') : joinLines (Text.lines text) = text := by
  -- A feed puts an empty line in front, any other character joins the first line.
  induction text with
  | nil => rfl
  | cons c rest ih =>
    have behind : rest.getLast? ≠ some '\n' := by
      intro feed
      rw [List.getLast?_cons, feed] at ended
      exact ended rfl
    have joined := ih (fun d member => breaks d (List.mem_cons_of_mem c member)) behind
    cases inside : Text.isLineBreak c with
    | true =>
      cases breaks c List.mem_cons_self inside
      have some_rest : rest ≠ [] := by
        rintro rfl
        exact ended rfl
      rw [Text.lines_break inside fun _ same => absurd same (by decide)]
      obtain ⟨line, more, lined⟩ := List.exists_cons_of_ne_nil (Text.lines_ne_nil some_rest)
      rw [lined] at joined ⊢
      rw [← joined]
      rfl
    | false =>
      rw [Text.lines_inside inside]
      cases lined : Text.lines rest with
      | nil =>
        have none : rest = [] := by_contra fun some_rest => Text.lines_ne_nil some_rest lined
        rw [none]
        rfl
      | cons line more =>
        rw [lined] at joined
        rw [← joined]
        cases more <;> rfl

/-- A text of lines that are kept has no indentation to lose. -/
theorem IsVerbatim.undented_eq {text : String} (verbatim : IsVerbatim text.toList) {width : Nat}
    (shared : SharedIndent width (Text.lines text.toList)) : undented width text = text := by
  obtain ⟨c, rest, member, apart⟩ := verbatim.flush
  -- The line that is flush has no indentation, so that none is shared.
  have filled : isBlankLine (c :: rest) = false := by simp [isBlankLine, apart]
  have none := shared.least _ member filled
  rw [indentWidth, List.takeWhile_cons_of_neg (by simp [apart]), List.length_nil] at none
  rw [undented, Nat.le_zero.mp none, map_drop_zero,
    withoutBlankEnds_eq_self verbatim.first verbatim.last,
    joinLines_lines verbatim.breaks verbatim.ended, String.ofList_toList]

section

variable {text indent : String}

/-- A text that is not empty is a description. -/
theorem filter_ne_empty (some_text : text ≠ "") :
    (some text).filter (· ≠ "") = some text := by
  rw [Option.filter_some, if_pos (by simpa using some_text)]

/-- The lines of a description stand on their own behind a feed. -/
theorem onLines_description_eq (some_text : text ≠ "") (indent : String) :
    onLines (description (some text) indent) =
      '\n' :: (String.intercalate "\n" (description (some text) indent)).toList := by
  refine onLines_eq ?_
  rw [description, filter_ne_empty some_text]
  exact List.cons_ne_nil _ _

variable (some_text : text ≠ "") (blank : ∀ c ∈ indent.toList, isIndent c = true)

include some_text blank

/-- A description with its halves paired is one block string. -/
theorem lex_description_paired (paired : Text.isPaired text.toList = true) {width : Nat}
    (dedented : dedent ([] :: Text.lines text.toList) =
      withoutBlankEnds ((Text.lines text.toList).map (List.drop width))) :
    lex (String.intercalate "\n" (description (some text) indent)).toList =
      [.block (undented width text), .finish] := by
  have printed : Prints (onLines (description (some text) indent))
      (descriptionTokens (described (some text))) := by
    refine .description_of_paired ?_ blank
    rintro value ⟨⟩
    exact paired
  rw [onLines_description_eq some_text] at printed
  have said : described (some text) = some (undented width text) := by
    rw [described, filter_ne_empty some_text, Option.map_some, dedented, undented]
  rw [(printed.scans.of_cons rfl).lex_eq, said]
  rfl

/-- A description that has a half which stands by itself is refused. -/
theorem exists_lex_description_stray (stray : Text.isPaired text.toList = false) :
    ∃ fault, lex (String.intercalate "\n" (description (some text) indent)).toList =
      [.invalid fault] := by
  have lined := onLines_description (filter_ne_empty some_text) indent []
  rw [List.append_nil, onLines_description_eq some_text, List.cons.injEq] at lined
  rw [← all_isPaired_indented blank] at stray
  -- The quotes are met behind the indentation, and the lines behind the quotes.
  obtain ⟨fault, failed⟩ := exists_lexBlock_stray (unbroken_indented blank) stray
    (indent.toList ++ ['"', '"', '"'])
  have separate : ∀ c ∈ indent.toList, isSeparator c = true :=
    fun c member => isSeparator_of_isIndent (blank c member)
  refine ⟨fault, ?_⟩
  rw [lined.2, insideDescription_eq text blank, flatMap_feed]
  refine (Lexes.separators separate (.fault ?_)).lex_eq
  rw [Lexes.skipIgnored_eq (by simp [isSeparator]), lexToken.eq_2, lexBlock_feed, failed]
  rfl

end

/-- A description is one block string, the text without shared indentation, unless it is refused. -/
theorem lex_description {text indent : String} (some_text : text ≠ "")
    (blank : ∀ c ∈ indent.toList, isIndent c = true) :
    (Text.isPaired text.toList = true → ∃ width, SharedIndent width (Text.lines text.toList) ∧
      lex (String.intercalate "\n" (description (some text) indent)).toList =
        [.block (undented width text), .finish] ∧
      (IsVerbatim text.toList → undented width text = text)) ∧
    (Text.isPaired text.toList = false →
      ∃ fault, lex (String.intercalate "\n" (description (some text) indent)).toList =
        [.invalid fault]) := by
  refine ⟨fun paired => ?_, exists_lex_description_stray some_text blank⟩
  obtain ⟨width, shared, dedented⟩ := exists_dedent_eq (Text.lines text.toList)
  exact ⟨width, shared, lex_description_paired some_text blank paired dedented,
    fun verbatim => verbatim.undented_eq shared⟩

/-- Quotes in a row, a backslash in front of some and at the end of a line, and a blank line. -/
def quotedText : String :=
  "\"\"\"\"\" five\n \t\n  \\\"\"\" three\\\nend\""

/-- The quotes are read back behind an indentation. -/
theorem lex_description_quoted : quotedText ≠ "" ∧ (∀ c ∈ "  ".toList, isIndent c = true) ∧
    Text.isPaired quotedText.toList = true ∧ IsVerbatim quotedText.toList ∧
    ∃ width, SharedIndent width (Text.lines quotedText.toList) ∧
      lex (String.intercalate "\n" (description (some quotedText) "  ")).toList =
        [.block (undented width quotedText), .finish] ∧ undented width quotedText = quotedText := by
  have some_text : quotedText ≠ "" := by decide
  have blank : ∀ c ∈ "  ".toList, isIndent c = true := List.all_eq_true.mp rfl
  have paired : Text.isPaired quotedText.toList = true := by decide +kernel
  have breaks : ∀ c ∈ quotedText.toList, Text.isLineBreak c = true → c = '\n' := by
    have all : (quotedText.toList.all fun c => !Text.isLineBreak c || c = '\n') = true := by
      decide +kernel
    intro c member breaks
    simpa [breaks] using List.all_eq_true.mp all c member
  have verbatim : IsVerbatim quotedText.toList :=
    ⟨breaks, by decide, by decide +kernel, by decide +kernel,
      ⟨'e', ['n', 'd', '"'], by decide +kernel, rfl⟩⟩
  obtain ⟨width, shared, lexed, kept⟩ := (lex_description some_text blank).1 paired
  exact ⟨some_text, blank, paired, verbatim, width, shared, lexed, kept verbatim⟩

/-- A half of a character that stands by itself is no block string. -/
theorem lex_description_half : String.singleton (Text.ofCode 0xdc00) ≠ "" ∧
    ¬∃ value, lex (String.intercalate "\n"
      (description (some (String.singleton (Text.ofCode 0xdc00))) "")).toList =
        [.block value, .finish] := by
  have lexed : lex (String.intercalate "\n"
      (description (some (String.singleton (Text.ofCode 0xdc00))) "")).toList =
        [.invalid (.strayHalf (Text.ofCode 0xdc00))] := by
    decide +kernel
  refine ⟨by decide +kernel, fun ⟨value, read⟩ => ?_⟩
  rw [lexed] at read
  cases read

end AppSync.Sdl
