import AppSync.Proofs.Sdl.Definition
import AppSync.Proofs.Sdl.Quoted
import AppSync.Proofs.Text.Line
import AppSync.Sdl.Literal

/-! Descriptions as block strings: what is read back depends on no indentation and no escape. -/

namespace AppSync.Sdl

/-- A character that does not begin three quotes is kept. -/
theorem escapeQuotes_cons {c : Char} {rest : List Char}
    (apart : ∀ tail, c :: rest ≠ '"' :: '"' :: '"' :: tail) :
    escapeQuotes (c :: rest) = c :: escapeQuotes rest :=
  escapeQuotes.eq_3 c rest fun tail quote quotes => apart tail (by rw [quote, quotes])

/-- Escaping puts no line feed in front. -/
theorem exists_of_escapeQuotes {text tail : List Char} (feed : escapeQuotes text = '\n' :: tail) :
    ∃ more, text = '\n' :: more := by
  -- Only a character that is kept stands in front, and it is the one of the text.
  cases text using escapeQuotes.fun_cases with
  | case1 => simp [escapeQuotes] at feed
  | case2 rest => simp [escapeQuotes] at feed
  | case3 c rest apart =>
    rw [escapeQuotes.eq_3 c rest apart] at feed
    cases feed
    exact ⟨rest, rfl⟩

section Lines

variable {c : Char} {rest : List Char}

/-- Three quotes in a line are escaped in that line. -/
theorem lines_escapeQuotes_quotes
    (ih : Text.lines (escapeQuotes rest) = (Text.lines rest).map escapeQuotes) :
    Text.lines (escapeQuotes ('"' :: '"' :: '"' :: rest)) =
      (Text.lines ('"' :: '"' :: '"' :: rest)).map escapeQuotes := by
  -- Neither the quotes nor the backslash in front of them end a line.
  have quote : Text.isLineBreak '"' = false := by
    unfold Text.isLineBreak
    decide
  have escape : Text.isLineBreak '\\' = false := by
    unfold Text.isLineBreak
    decide
  rw [escapeQuotes.eq_2]
  simp only [Text.lines_inside quote, Text.lines_inside escape, ih]
  cases Text.lines rest with
  | nil => rfl
  | cons line more => rfl

/-- A character that stands for itself stays in its line. -/
theorem lines_escapeQuotes_inside (apart : ∀ tail, c :: rest ≠ '"' :: '"' :: '"' :: tail)
    (inside : Text.isLineBreak c = false)
    (ih : Text.lines (escapeQuotes rest) = (Text.lines rest).map escapeQuotes) :
    Text.lines (escapeQuotes (c :: rest)) = (Text.lines (c :: rest)).map escapeQuotes := by
  rw [escapeQuotes_cons apart, Text.lines_inside inside, Text.lines_inside inside, ih]
  cases lined : Text.lines rest with
  | nil => simp [consLine, escapeQuotes]
  | cons line more =>
    -- The first line begins with three quotes only if the text does.
    obtain ⟨behind, rfl⟩ := Text.prefix_of_lines lined
    have kept : ∀ tail, c :: line ≠ '"' :: '"' :: '"' :: tail := by
      intro tail same
      rw [List.cons.injEq] at same
      obtain ⟨rfl, rfl⟩ := same
      exact apart _ rfl
    simp [consLine, escapeQuotes_cons kept]

/-- A break ends a line, escaped or not. -/
theorem lines_escapeQuotes_break (apart : ∀ tail, c :: rest ≠ '"' :: '"' :: '"' :: tail)
    (breaks : Text.isLineBreak c = true)
    (ih : Text.lines (escapeQuotes rest) = (Text.lines rest).map escapeQuotes) :
    Text.lines (escapeQuotes (c :: rest)) = (Text.lines (c :: rest)).map escapeQuotes := by
  rw [escapeQuotes_cons apart]
  -- A return and its feed are one break; escaping neither parts nor joins them.
  by_cases paired : ∃ tail, c = '\r' ∧ rest = '\n' :: tail
  · obtain ⟨tail, rfl, rfl⟩ := paired
    have feed : ∀ more, ('\n' :: tail : List Char) ≠ '"' :: '"' :: '"' :: more := by simp
    have single : ∀ (more tail : List Char), '\n' = '\r' → more ≠ '\n' :: tail :=
      fun _ _ same => absurd same (by decide)
    rw [escapeQuotes_cons feed, Text.lines_break Text.isLineBreak_feed (single _),
      Text.lines_break Text.isLineBreak_feed (single _), List.map_cons, List.cons.injEq] at ih
    rw [escapeQuotes_cons feed, Text.lines.eq_2, Text.lines.eq_2, ih.2]
    rfl
  · have single : ∀ tail, c = '\r' → rest ≠ '\n' :: tail :=
      fun tail same feed => paired ⟨tail, same, feed⟩
    have singleEscaped : ∀ tail, c = '\r' → escapeQuotes rest ≠ '\n' :: tail := by
      intro tail same feed
      obtain ⟨more, rfl⟩ := exists_of_escapeQuotes feed
      exact single more same rfl
    rw [Text.lines_break breaks single, Text.lines_break breaks singleEscaped, ih]
    rfl

end Lines

/-- The lines of an escaped text are the escaped lines of the text. -/
theorem lines_escapeQuotes (text : List Char) :
    Text.lines (escapeQuotes text) = (Text.lines text).map escapeQuotes := by
  -- Quotes are escaped three at a time; any other character is inside a line or ends one.
  induction text using escapeQuotes.induct with
  | case1 => rfl
  | case2 rest ih => exact lines_escapeQuotes_quotes ih
  | case3 c rest apart ih =>
    have apart : ∀ tail, c :: rest ≠ '"' :: '"' :: '"' :: tail := by
      rintro tail same
      cases same
      exact apart tail rfl rfl
    cases breaks : Text.isLineBreak c with
    | false => exact lines_escapeQuotes_inside apart breaks ih
    | true => exact lines_escapeQuotes_break apart breaks ih

/-- An escaped line holds no three quotes to begin with. -/
theorem escapeQuotes_append_ne (line tail more : List Char) :
    escapeQuotes line ++ '\n' :: tail ≠ '"' :: '"' :: '"' :: more := by
  intro same
  -- Three characters of the line decide, and a shorter line meets the feed.
  match line with
  | [] => simp [escapeQuotes] at same
  | [a] => simp [escapeQuotes] at same
  | [a, b] => simp [escapeQuotes] at same
  | a :: b :: c :: rest =>
    by_cases quotes : a = '"' ∧ b = '"' ∧ c = '"'
    · obtain ⟨rfl, rfl, rfl⟩ := quotes
      simp [escapeQuotes] at same
    · -- The first three characters are kept, so they are no quotes.
      have first : ∀ tail, a :: b :: c :: rest ≠ '"' :: '"' :: '"' :: tail := by
        intro tail same
        cases same
        exact quotes ⟨rfl, rfl, rfl⟩
      rw [escapeQuotes_cons first, List.cons_append, List.cons.injEq] at same
      obtain ⟨rfl, same⟩ := same
      by_cases second : b = '"'
      · subst second
        have third : c ≠ '"' := fun same => quotes ⟨rfl, rfl, same⟩
        rw [escapeQuotes_cons (by simp [third]), escapeQuotes_cons (by simp [third])] at same
        simp [third] at same
      · rw [escapeQuotes_cons (by simp [second])] at same
        simp [second] at same

/-- Characters that may stand anywhere in a line of a block string. -/
def InLine (c : Char) : Prop :=
  ¬(c = '\n' ∨ c = '\r') ∧ Text.carriesHalf c = false

/-- The characters of an indentation. -/
theorem isIndent_iff {c : Char} : isIndent c = true ↔ c = ' ' ∨ c = '\t' := by
  simp [isIndent]

/-- Indentation separates tokens. -/
theorem isSeparator_of_isIndent {c : Char} (blank : isIndent c = true) : isSeparator c = true := by
  rcases isIndent_iff.mp blank with rfl | rfl <;> decide

/-- Indentation may stand in a line. -/
theorem inLine_of_isIndent {c : Char} (blank : isIndent c = true) : InLine c := by
  rcases isIndent_iff.mp blank with rfl | rfl <;>
    exact ⟨by decide, Text.carriesHalf_of_small (by decide)⟩

/-- A half of a character ends neither a line nor a block, and begins no escape. -/
theorem inBlock_of_carriesHalf {c : Char} (half : Text.carriesHalf c = true) (rest : List Char) :
    InBlock c rest ∧ ¬(c = '\n' ∨ c = '\r') := by
  have large {d : Char} (small : d.toNat < 0xd800) : c ≠ d := by
    rintro rfl
    simp [Text.carriesHalf_of_small small] at half
  exact ⟨⟨fun _ same => (large (by decide) same).elim, fun _ same => (large (by decide) same).elim⟩,
    Text.ne_of_inside (Text.inside_of_carriesHalf half)⟩

/-- A half of a character is kept. -/
theorem escapeQuotes_half {c : Char} (half : Text.carriesHalf c = true) (rest : List Char) :
    escapeQuotes (c :: rest) = c :: escapeQuotes rest := by
  refine escapeQuotes_cons ?_
  rintro tail same
  cases same
  simp [Text.carriesHalf_of_small (by decide : '"'.toNat < 0xd800)] at half

/-- A feed begins a line. -/
theorem lexBlock_feed (rest : List Char) :
    lexBlock ('\n' :: rest) = (lexBlock rest).map fun found => ([] :: found.1, found.2) :=
  lexBlock_line (.inl rfl) fun _ same => absurd same (by decide)

/-- How an escaped line is read: as the line if its halves are paired, and else not at all. -/
structure ReadsLine (line tail : List Char) : Prop where
  paired : Text.isPaired line = true → lexBlock (escapeQuotes line ++ '\n' :: tail) =
    (lexBlock tail).map fun found => (line :: found.1, found.2)
  stray : Text.isPaired line = false →
    ∃ fault, lexBlock (escapeQuotes line ++ '\n' :: tail) = .error fault

namespace ReadsLine

variable {line tail : List Char}

/-- An empty line ends at once. -/
theorem nil : ReadsLine [] tail where
  paired _ := lexBlock_feed tail
  stray stray := nomatch stray

/-- What is read in front of a line belongs to it, if the halves in it are paired. -/
theorem append (reads : ReadsLine line tail) (front escaped : List Char)
    (escapes : escapeQuotes (front ++ line) = escaped ++ escapeQuotes line)
    (read : lexBlock (escaped ++ (escapeQuotes line ++ '\n' :: tail)) =
      (lexBlock (escapeQuotes line ++ '\n' :: tail)).map
        fun found => (consLine front found.1, found.2))
    (same : Text.isPaired (front ++ line) = Text.isPaired line) :
    ReadsLine (front ++ line) tail where
  paired paired := by
    rw [escapes, List.append_assoc, read, reads.paired (same ▸ paired)]
    cases lexBlock tail <;> rfl
  stray stray := by
    obtain ⟨fault, failed⟩ := reads.stray (same ▸ stray)
    rw [escapes, List.append_assoc, read, failed]
    exact ⟨fault, rfl⟩

/-- A half that is not completed is refused. -/
theorem of_stray {c : Char} (half : Text.carriesHalf c = true)
    (stray : ∀ d ∈ line.head?, Text.isPair c d = false) : ReadsLine (c :: line) tail where
  paired paired := by simp [Text.isPaired_stray half stray] at paired
  stray _ := by
    -- The escapes and the end of the line complete no half either.
    obtain ⟨d, rest, behind, apart⟩ : ∃ d rest,
        escapeQuotes line ++ '\n' :: tail = d :: rest ∧ Text.isPair c d = false := by
      cases line using escapeQuotes.fun_cases with
      | case1 => exact ⟨_, _, rfl, Text.isPair_of_small (by decide)⟩
      | case2 rest => exact ⟨_, _, rfl, Text.isPair_of_small (by decide)⟩
      | case3 d rest apart =>
        rw [escapeQuotes.eq_3 d rest apart]
        exact ⟨d, _, rfl, stray d rfl⟩
    obtain ⟨inBlock, unbroken⟩ := inBlock_of_carriesHalf half (d :: rest)
    rw [escapeQuotes_half half, List.cons_append, behind,
      lexBlock.eq_5 c d rest inBlock.closes inBlock.escapes
        (fun _ single => (unbroken (.inr single)).elim), if_neg unbroken, if_neg (by simp [half]),
      if_neg (by simp [apart])]
    exact ⟨_, rfl⟩

/-- What is kept of a line neither ends the block nor begins an escape. -/
theorem inBlock_of_kept {c : Char}
    (kept : escapeQuotes (c :: line) = c :: escapeQuotes line) (tail : List Char) :
    InBlock c (escapeQuotes line ++ '\n' :: tail) := by
  constructor
  · intro more quote same
    apply escapeQuotes_append_ne (c :: line) tail more
    rw [kept, List.cons_append, same, quote]
  · intro more escape same
    exact escapeQuotes_append_ne line tail more same

/-- A line is read as itself or refused, alone and behind a half of a character. -/
theorem both (unbroken : ∀ c ∈ line, ¬(c = '\n' ∨ c = '\r')) (tail : List Char) :
    ReadsLine line tail ∧ ∀ c, Text.carriesHalf c = true → ReadsLine (c :: line) tail := by
  -- The induction follows the escaping; a half waits for the character that completes it.
  induction line using escapeQuotes.induct with
  | case1 => exact ⟨nil, fun c half => of_stray half fun _ none => nomatch none⟩
  | case2 line ih =>
    have quote : Text.carriesHalf '"' = false := Text.carriesHalf_of_small (by decide)
    have own := (ih fun c member => unbroken c (by simp [member])).1
    refine ⟨own.append ['"', '"', '"'] ['\\', '"', '"', '"'] rfl (lexBlock_escape _) ?_,
      fun c half => of_stray half ?_⟩
    · exact Text.isPaired_append (by simp [quote]) line
    · rintro d ⟨⟩
      exact Text.isPair_of_small (by decide)
  | case3 d line apart ih =>
    obtain ⟨own, behind⟩ := ih fun c member => unbroken c (List.mem_cons_of_mem d member)
    have kept := escapeQuotes.eq_3 d line apart
    constructor
    · cases half : Text.carriesHalf d with
      | true => exact behind d half
      | false =>
        have inBlock := inBlock_of_kept kept tail
        exact own.append [d] [d] kept
          (lexBlock_plain inBlock (unbroken d List.mem_cons_self) half) (Text.isPaired_whole half _)
    · intro c half
      cases pair : Text.isPair c d with
      | false =>
        refine of_stray half ?_
        rintro other ⟨⟩
        exact pair
      | true =>
        obtain ⟨inBlock, ends⟩ :=
          inBlock_of_carriesHalf half (d :: (escapeQuotes line ++ '\n' :: tail))
        refine own.append [c, d] [c, d] ?_
          (lexBlock_pair inBlock ends half pair) (Text.isPaired_pair pair line)
        rw [List.cons_append, escapeQuotes_half half]
        exact congrArg _ kept

end ReadsLine

/-- An indentation in front of the closing quotes is the last line. -/
theorem lexBlock_closing {indent : List Char} (blank : ∀ c ∈ indent, isIndent c = true)
    (rest : List Char) : lexBlock (indent ++ '"' :: '"' :: '"' :: rest) = .ok ([indent], rest) := by
  -- Blanks are plain characters in a block.
  induction indent with
  | nil => exact lexBlock.eq_2 rest
  | cons c indent ih =>
    have others := ih fun d member => blank d (List.mem_cons_of_mem _ member)
    have own := blank c List.mem_cons_self
    obtain ⟨line, whole⟩ := inLine_of_isIndent own
    have quote : c ≠ '"' := by
      rintro rfl
      exact absurd own (by decide)
    have escape : c ≠ '\\' := by
      rintro rfl
      exact absurd own (by decide)
    have inBlock : InBlock c (indent ++ '"' :: '"' :: '"' :: rest) :=
      ⟨fun _ same => (quote same).elim, fun _ same => (escape same).elim⟩
    rw [List.cons_append, lexBlock_plain inBlock line whole, others]
    rfl

/-- Feeds in front of lines and of what follows them stand behind a feed and behind the lines. -/
theorem flatMap_feed (written : List Char → List Char) (lines : List (List Char))
    (rest : List Char) :
    lines.flatMap (fun line => '\n' :: written line) ++ '\n' :: rest =
      '\n' :: (lines.flatMap (fun line => written line ++ ['\n']) ++ rest) := by
  induction lines with
  | nil => rfl
  | cons line others ih => simp [ih]

section Lines

variable {lines : List (List Char)}

/-- Escaped lines with their halves paired are read in front of what follows them. -/
theorem lexBlock_paired (unbroken : ∀ line ∈ lines, ∀ c ∈ line, ¬(c = '\n' ∨ c = '\r'))
    (paired : lines.all Text.isPaired = true) (rest : List Char) :
    lexBlock (lines.flatMap (fun line => escapeQuotes line ++ ['\n']) ++ rest) =
      (lexBlock rest).map fun found => (lines ++ found.1, found.2) := by
  -- Each line is read in front of all that follows it, the other lines included.
  induction lines with
  | nil => cases read : lexBlock rest <;> simp [read, Except.map]
  | cons line others ih =>
    obtain ⟨own, behind⟩ := Bool.and_eq_true_iff.mp paired
    have first := (ReadsLine.both (unbroken line List.mem_cons_self)
      (others.flatMap (fun line => escapeQuotes line ++ ['\n']) ++ rest)).1
    have read := ih (fun other member => unbroken other (List.mem_cons_of_mem _ member)) behind
    rw [List.flatMap_cons, List.append_assoc, List.append_assoc, List.singleton_append,
      first.paired own, read]
    cases lexBlock rest <;> rfl

/-- Escaped lines of which one has a half that stands by itself are refused. -/
theorem exists_lexBlock_stray (unbroken : ∀ line ∈ lines, ∀ c ∈ line, ¬(c = '\n' ∨ c = '\r'))
    (stray : lines.all Text.isPaired = false) (rest : List Char) :
    ∃ fault, lexBlock (lines.flatMap (fun line => escapeQuotes line ++ ['\n']) ++ rest) =
      .error fault := by
  -- The first such line is refused, and those in front of it are read.
  induction lines with
  | nil => cases stray
  | cons line others ih =>
    have first := (ReadsLine.both (unbroken line List.mem_cons_self)
      (others.flatMap (fun line => escapeQuotes line ++ ['\n']) ++ rest)).1
    rw [List.flatMap_cons, List.append_assoc, List.append_assoc, List.singleton_append]
    cases own : Text.isPaired line with
    | false => exact first.stray own
    | true =>
      rw [List.all_cons, own, Bool.true_and] at stray
      obtain ⟨fault, failed⟩ :=
        ih (fun other member => unbroken other (List.mem_cons_of_mem _ member)) stray
      rw [first.paired own, failed]
      exact ⟨fault, rfl⟩

/-- Escaped lines behind the opening quotes are read as the lines between two of indentation. -/
theorem lexBlock_lines (unbroken : ∀ line ∈ lines, ∀ c ∈ line, ¬(c = '\n' ∨ c = '\r'))
    (paired : lines.all Text.isPaired = true) {indent : List Char}
    (blank : ∀ c ∈ indent, isIndent c = true) (rest : List Char) :
    lexBlock (lines.flatMap (fun line => '\n' :: escapeQuotes line) ++
        '\n' :: (indent ++ '"' :: '"' :: '"' :: rest)) =
      .ok ([] :: (lines ++ [indent]), rest) := by
  rw [flatMap_feed, lexBlock_feed, lexBlock_paired unbroken paired, lexBlock_closing blank]
  rfl

end Lines

/-- A line behind an indentation, as it is read; an empty line stays empty. -/
def indented (indent line : List Char) : List Char :=
  if line.isEmpty then [] else indent ++ line

/-- Lines without blank ones at the ends. -/
def withoutBlankEnds (lines : List (List Char)) : List (List Char) :=
  ((lines.dropWhile isBlankLine).reverse.dropWhile isBlankLine).reverse

/-- A blank line at the end does not count. -/
theorem withoutBlankEnds_concat {line : List Char} (blank : isBlankLine line = true)
    (lines : List (List Char)) : withoutBlankEnds (lines ++ [line]) = withoutBlankEnds lines := by
  -- Either all lines are blank, or the last one is dropped from the end.
  unfold withoutBlankEnds
  rw [List.dropWhile_append]
  split
  · rename_i empty
    rw [List.isEmpty_iff] at empty
    simp [empty, blank]
  · rw [List.reverse_append, List.reverse_singleton, List.singleton_append,
      List.dropWhile_cons_of_pos blank]

section Indentation

variable {indent : List Char}

/-- An indented line is blank where the line is. -/
theorem isBlankLine_indented (blank : ∀ c ∈ indent, isIndent c = true) (line : List Char) :
    isBlankLine (indented indent line) = isBlankLine line := by
  unfold indented
  cases line with
  | nil => rfl
  | cons c rest =>
    have all : indent.all isIndent = true := List.all_eq_true.mpr blank
    simp only [List.isEmpty_cons, Bool.false_eq_true, if_false, isBlankLine, List.all_append, all,
      Bool.true_and]

/-- An indentation adds its length to the width of a line that is not blank. -/
theorem indentWidth_indented (blank : ∀ c ∈ indent, isIndent c = true) {line : List Char}
    (filled : isBlankLine line = false) :
    indentWidth (indented indent line) = indentWidth line + indent.length := by
  unfold indented indentWidth
  cases line with
  | nil => cases filled
  | cons c rest =>
    rw [List.isEmpty_cons, if_neg Bool.false_ne_true, List.takeWhile_append_of_pos blank,
      List.length_append, Nat.add_comm]

/-- Widths that all grow by as much have a least one that does. -/
theorem min?_map_add (widths : List Nat) (more : Nat) :
    (widths.map (· + more)).min? = widths.min?.map (· + more) := by
  cases widths with
  | nil => rfl
  | cons first others =>
    rw [List.map_cons, List.min?_cons', List.min?_cons', Option.map_some, Option.some.injEq]
    -- The least one so far grows as the others do.
    induction others generalizing first with
    | nil => rfl
    | cons second others ih =>
      have least : min (first + more) (second + more) = min first second + more := by omega
      rw [List.map_cons, List.foldl_cons, List.foldl_cons, least, ih]

/-- The indentation of lines grows by what stands in front of each. -/
theorem commonIndent?_indented (blank : ∀ c ∈ indent, isIndent c = true)
    (lines : List (List Char)) :
    commonIndent? (lines.map (indented indent) ++ [indent]) =
      (commonIndent? lines).map (· + indent.length) := by
  have last : isBlankLine indent = true := List.all_eq_true.mpr blank
  have widths : ((lines.map (indented indent)).filter fun line => !isBlankLine line).map
      indentWidth =
        ((lines.filter fun line => !isBlankLine line).map indentWidth).map (· + indent.length) := by
    rw [List.filter_map, List.map_map, List.map_map]
    have same : (fun line => !isBlankLine line) ∘ indented indent =
        fun line => !isBlankLine line := by
      funext line
      simp [isBlankLine_indented blank]
    rw [same]
    refine List.map_congr_left fun line member => ?_
    have filled : isBlankLine line = false := by simpa using (List.mem_filter.mp member).2
    exact indentWidth_indented blank filled
  -- The closing line is blank and has no say.
  have uncounted : [indent].filter (fun line => !isBlankLine line) = [] := by simp [last]
  unfold commonIndent?
  rw [List.filter_append, uncounted, List.append_nil, widths, min?_map_add]

/-- What lines say depends neither on their indentation nor on a blank line behind them. -/
theorem dedent_indented (blank : ∀ c ∈ indent, isIndent c = true) (lines : List (List Char)) :
    dedent ([] :: (lines.map (indented indent) ++ [indent])) = dedent ([] :: lines) := by
  -- Dropping the shared width drops what was put in front.
  have shift (width : Nat) (line : List Char) :
      (indented indent line).drop (width + indent.length) = line.drop width := by
    unfold indented
    cases line with
    | nil => simp
    | cons c rest =>
      rw [List.isEmpty_cons, if_neg Bool.false_ne_true, Nat.add_comm, ← List.drop_drop,
        List.drop_left]
  simp only [dedent, commonIndent?_indented blank]
  cases commonIndent? lines with
  | none =>
    have dropped := @withoutBlankEnds_concat [] rfl
      ([] :: lines.map fun _ => ([] : List Char))
    simpa [withoutBlankEnds, Function.comp_def] using dropped
  | some width =>
    have gone : indent.drop (width + indent.length) = [] := by
      rw [List.drop_eq_nil_iff]
      omega
    have dropped := @withoutBlankEnds_concat [] rfl
      ([] :: lines.map fun line => line.drop width)
    simpa [withoutBlankEnds, shift, gone, Function.comp_def] using dropped

end Indentation

/-- What a text says as a description: its lines without shared indentation and blank ends. -/
def described (text : Option String) : Option String :=
  (text.filter (· ≠ "")).map fun text =>
    String.ofList (joinLines (dedent ([] :: Text.lines text.toList)))

/-- Lines of a document, each behind a line break. -/
def onLines (lines : List String) : List Char :=
  lines.flatMap fun line => '\n' :: line.toList

/-- Lines stand one after the other. -/
theorem onLines_append (first second : List String) :
    onLines (first ++ second) = onLines first ++ onLines second :=
  List.flatMap_append

/-- An indentation does not begin with three quotes, so escaping a line leaves it as it is. -/
theorem escapeQuotes_indented {indent : List Char} (blank : ∀ c ∈ indent, isIndent c = true)
    (line : List Char) : escapeQuotes (indent ++ line) = indent ++ escapeQuotes line := by
  -- A blank is no quote, so that it is kept.
  induction indent with
  | nil => rfl
  | cons c indent ih =>
    have other : c ≠ '"' := by
      rintro rfl
      exact absurd (blank '"' List.mem_cons_self) (by decide)
    rw [List.cons_append, escapeQuotes_cons (by simp [other]),
      ih fun d member => blank d (List.mem_cons_of_mem _ member)]
    rfl

/-- An indented line is written as it is read, but for its escapes. -/
theorem toList_indentLine {indent : String} (blank : ∀ c ∈ indent.toList, isIndent c = true)
    (line : List Char) :
    (indentLine indent (escapeQuotes line)).toList =
      escapeQuotes (indented indent.toList line) := by
  unfold indentLine indented
  -- An empty line is not indented, before or after its escapes.
  cases line using escapeQuotes.fun_cases with
  | case1 => rfl
  | case2 rest =>
    rw [List.isEmpty_cons, if_neg Bool.false_ne_true, escapeQuotes_indented blank]
    simp [escapeQuotes]
  | case3 c rest apart =>
    rw [List.isEmpty_cons, if_neg Bool.false_ne_true, escapeQuotes_indented blank]
    simp [escapeQuotes.eq_3 c rest apart]

section

variable {text indent : List Char}

/-- The characters of indented lines are those of the indentation, and those inside of lines. -/
theorem mem_of_mem_indented {line : List Char}
    (member : line ∈ (Text.lines text).map (indented indent)) {c : Char} (found : c ∈ line) :
    c ∈ indent ∨ (c ∈ text ∧ Text.isLineBreak c = false) := by
  obtain ⟨own, ofText, rfl⟩ := List.mem_map.mp member
  unfold indented at found
  split at found
  · cases found
  · exact (List.mem_append.mp found).imp_right (Text.inside_of_mem_lines ofText c)

variable (blank : ∀ c ∈ indent, isIndent c = true)

include blank

/-- An indented line holds no break. -/
theorem unbroken_indented : ∀ line ∈ (Text.lines text).map (indented indent), ∀ c ∈ line,
    ¬(c = '\n' ∨ c = '\r') := by
  intro line member c found
  rcases mem_of_mem_indented member found with front | ⟨-, inside⟩
  · exact (inLine_of_isIndent (blank c front)).1
  · exact Text.ne_of_inside inside

/-- The halves in a text are paired if they are so in its lines behind an indentation. -/
theorem all_isPaired_indented : ((Text.lines text).map (indented indent)).all Text.isPaired =
    Text.isPaired text := by
  have same (line : List Char) :
      (Text.isPaired ∘ indented indent) line = Text.isPaired line := by
    dsimp only [Function.comp, indented]
    split
    · rename_i empty
      rw [List.isEmpty_iff.mp empty]
    · exact Text.isPaired_append (fun c member => (inLine_of_isIndent (blank c member)).2) line
  rw [List.all_map, funext same, Text.all_isPaired_lines]

end

/-- The lines of a description between its delimiters. -/
def insideDescription (text indent : String) : List Char :=
  onLines ((Text.lines (escapeQuotes text.toList)).map (indentLine indent))

/-- The lines are those of the text, indented and escaped. -/
theorem insideDescription_eq (text : String) {indent : String}
    (blank : ∀ c ∈ indent.toList, isIndent c = true) :
    insideDescription text indent =
      ((Text.lines text.toList).map (indented indent.toList)).flatMap
        fun line => '\n' :: escapeQuotes line := by
  rw [insideDescription, lines_escapeQuotes]
  simp [onLines, List.flatMap_map, toList_indentLine blank]

/-- A description that is written stands between its delimiters. -/
theorem onLines_description {text : Option String} {value : String}
    (said : text.filter (· ≠ "") = some value) (indent : String) (rest : List Char) :
    onLines (description text indent) ++ rest =
      '\n' :: (indent.toList ++ '"' :: '"' :: '"' :: (insideDescription value indent ++
        '\n' :: (indent.toList ++ '"' :: '"' :: '"' :: rest))) := by
  rw [description, said]
  simp [onLines, insideDescription, blockQuote]

/-- A description on lines of its own, with its halves paired, is written for what it says. -/
theorem Prints.description_of_paired {text : Option String}
    (paired : ∀ value ∈ text, Text.isPaired value.toList = true) {indent : String}
    (blank : ∀ c ∈ indent.toList, isIndent c = true) :
    Prints (onLines (description text indent)) (descriptionTokens (described text)) := by
  cases said : text.filter (· ≠ "") with
  | none =>
    rw [Sdl.description, described, said]
    exact .nil
  | some value =>
    have paired := paired value (Option.mem_filter_iff.mp said).1
    rw [← all_isPaired_indented blank] at paired
    -- In front of the opening quotes the indentation separates tokens.
    have separate : ∀ c ∈ indent.toList, isSeparator c = true :=
      fun c member => isSeparator_of_isIndent (blank c member)
    intro rest breaks
    rw [onLines_description said, insideDescription_eq value blank, described, said]
    refine .separator rfl (.separators separate ?_)
    refine .token (by simp) ?_ (.done rest)
    rw [lexToken.eq_2, lexBlock_lines (unbroken_indented blank) paired blank, Except.map,
      dedent_indented blank]

/-- A description without halves of characters is written for what it says. -/
theorem Prints.description {text : Option String}
    (whole : ∀ value ∈ text, Text.hasHalves value = false) {indent : String}
    (blank : ∀ c ∈ indent.toList, isIndent c = true) :
    Prints (onLines (description text indent)) (descriptionTokens (described text)) :=
  .description_of_paired (fun value member => Text.isPaired_of_hasHalves (whole value member)) blank

end AppSync.Sdl
