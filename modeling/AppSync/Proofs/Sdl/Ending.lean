import AppSync.Sdl.Lexer

/-! Strings and block strings end where they do, whatever follows them. -/

namespace AppSync.Sdl

/-- A character is put in front of the string that is read. -/
theorem consChar_eq_map (c : Char) (found : Except LexicalFault (List Char × List Char)) :
    consChar c found = found.map fun found => (c :: found.1, found.2) := by
  cases found <;> rfl

/-- What is read up to an end that is found ends with a quote, whatever follows it. -/
def Ended {α : Type} (lexer : List Char → Except LexicalFault (α × List Char))
    (text : List Char) : Prop :=
  ∀ value rest, lexer text = .ok (value, rest) →
    ∃ inside, text = inside ++ '"' :: rest ∧
      ∀ more, lexer (inside ++ '"' :: more) = .ok (value, more)

namespace Ended

variable {α β : Type} {lexer : List Char → Except LexicalFault (α × List Char)}
  {inner : List Char → Except LexicalFault (β × List Char)} {tail : List Char}

/-- What follows the end of a text goes on behind it. -/
theorem extended {text rest : List Char} {value : α} (ended : Ended lexer text)
    (read : lexer text = .ok (value, rest)) (more : List Char) :
    lexer (text ++ more) = .ok (value, rest ++ more) := by
  obtain ⟨inside, rfl, onward⟩ := ended _ _ read
  have same := onward (rest ++ more)
  rwa [← List.cons_append, ← List.append_assoc] at same

/-- What is made of the end of a tail has an end where the tail has. -/
theorem of_map (start : List Char) (make : β → α)
    (here : lexer (start ++ tail) = (inner tail).map fun found => (make found.1, found.2))
    (onward : ∀ value inside rest, inner tail = .ok (value, rest) → tail = inside ++ '"' :: rest →
      ∀ more, lexer (start ++ (inside ++ '"' :: more)) =
        (inner (inside ++ '"' :: more)).map fun found => (make found.1, found.2))
    (ended : Ended inner tail) : Ended lexer (start ++ tail) := by
  intro value rest found
  rw [here] at found
  -- Only a tail with an end has one to be made something of.
  cases read : inner tail with
  | error fault => simp [read, Except.map] at found
  | ok result =>
    obtain ⟨result, left⟩ := result
    simp only [read, Except.map, Except.ok.injEq, Prod.mk.injEq] at found
    obtain ⟨rfl, rfl⟩ := found
    obtain ⟨inside, parted, extended⟩ := ended _ _ read
    refine ⟨start ++ inside, by rw [parted, List.append_assoc], fun more => ?_⟩
    rw [List.append_assoc, onward result inside left read parted, extended]
    rfl

/-- A string ends where what follows one of its characters does. -/
theorem of_consChar {lexer inner : List Char → Except LexicalFault (List Char × List Char)}
    (start : List Char) (c : Char) (same : ∀ more, lexer (start ++ more) = consChar c (inner more))
    (ended : Ended inner tail) : Ended lexer (start ++ tail) := by
  -- Putting a character in front makes something of the end of the tail.
  have mapped (more : List Char) := (same more).trans (consChar_eq_map c _)
  exact of_map start (c :: ·) (mapped tail) (fun _ _ _ _ _ more => mapped _) ended

/-- A string ends where its tail does. -/
theorem of_eq {lexer inner : List Char → Except LexicalFault (α × List Char)}
    (start : List Char) (same : ∀ more, lexer (start ++ more) = inner more)
    (ended : Ended inner tail) :
    Ended lexer (start ++ tail) := by
  intro value rest found
  rw [same] at found
  obtain ⟨inside, rfl, extended⟩ := ended _ _ found
  refine ⟨start ++ inside, by rw [List.append_assoc], fun more => ?_⟩
  rw [List.append_assoc, same, extended]

end Ended

/-- A quote ends a string. -/
theorem lexString_quote (rest : List Char) : lexString ('"' :: rest) = .ok ([], rest) := by
  rw [lexString.eq_def]
  rfl

/-- An escape by number is read behind its letter. -/
theorem lexString_numbered (rest : List Char) :
    lexString ('\\' :: 'u' :: rest) = lexNumbered rest := by
  rw [lexString.eq_def]
  rfl

/-- A short escape stands for its meaning. -/
theorem lexString_short {c meaning : Char} (other : c ≠ 'u')
    (meant : Json.shortMeaning? c = some meaning) (rest : List Char) :
    lexString ('\\' :: c :: rest) = consChar meaning (lexString rest) := by
  rw [lexString.eq_def]
  simp [other, meant]

/-- A character without a meaning of its own stands for itself. -/
theorem lexString_plain {c : Char} (quote : c ≠ '"') (escape : c ≠ '\\')
    (line : ¬(c = '\n' ∨ c = '\r')) (whole : Text.carriesHalf c = false) (rest : List Char) :
    lexString (c :: rest) = consChar c (lexString rest) := by
  rw [lexString.eq_def]
  simp [quote, escape, line, whole]

/-- Two halves that make a character stand for themselves. -/
theorem lexString_pair {c d : Char} (quote : c ≠ '"') (escape : c ≠ '\\')
    (line : ¬(c = '\n' ∨ c = '\r')) (half : Text.carriesHalf c = true)
    (pair : Text.isPair c d = true) (rest : List Char) :
    lexString (c :: d :: rest) = consChar c (consChar d (lexString rest)) := by
  rw [lexString.eq_def]
  simp [quote, escape, line, half, pair]

/-- Strings, escapes by number and escapes in braces end where they do whatever follows. -/
theorem ended_string : (∀ text, Ended lexString text) ∧ (∀ text, Ended lexNumbered text) ∧
    ∀ seen point text, Ended (lexBraced seen point) text := by
  -- One case for each branch of the three functions; the faults have no end.
  apply lexString.mutual_induct
  case case2 =>
    intro rest value left found
    rw [lexString_quote] at found
    cases found
    exact ⟨[], rfl, fun more => lexString_quote more⟩
  case case4 =>
    intro rest _ ended
    exact ended.of_eq ['\\', 'u'] lexString_numbered
  case case6 =>
    intro d rest other meaning meant _ ended
    exact ended.of_consChar ['\\', d] meaning (lexString_short other meant)
  case case8 =>
    intro c rest quote escape line whole ended
    exact ended.of_consChar [c] c (lexString_plain quote escape line (by simpa using whole))
  case case9 =>
    intro c quote escape line half d others pair ended
    have half : Text.carriesHalf c = true := by simpa using half
    have mapped (more : List Char) : lexString ([c, d] ++ more) =
        (lexString more).map fun found => (c :: d :: found.1, found.2) := by
      rw [List.cons_append, List.singleton_append, lexString_pair quote escape line half pair]
      cases lexString more <;> rfl
    exact ended.of_map [c, d] (c :: d :: ·) (mapped _) fun _ _ _ _ _ more => mapped _
  -- The branches of escapes by number: a brace, one unit, and two halves in two escapes.
  case case12 =>
    intro rest ended
    exact ended.of_eq ['\x7b'] fun more => by simp [lexNumbered]
  case case14 =>
    intro a b c d rest _ unit _ _ ended
    exact ended.of_consChar [a, b, c, d] (Char.ofNat unit) fun more => by
      simp_all [lexNumbered]
  case case16 =>
    intro a b c d _ unit _ _ e f g h rest low _ paired ended
    exact ended.of_consChar [a, b, c, d, '\\', 'u', e, f, g, h]
      (Char.ofNat (Text.pairCode unit low)) fun more => by simp_all [lexNumbered]
  -- The branches of escapes in braces: the closing brace and a digit.
  case case22 =>
    intro seen point rest _ _ ended
    exact ended.of_consChar ['\x7d'] (Char.ofNat point) fun more => by simp_all [lexBraced]
  case case25 =>
    intro seen point c rest _ _ digit _ ended
    exact ended.of_eq [c] fun more => by simp_all [lexBraced]
  -- What is left are faults, so that nothing has been read.
  case case17 =>
    intro a b c d opened unit spelled half e f g h rest low spelledLow unpaired value left found
    rw [lexNumbered.eq_2 a b c d _ opened, spelled] at found
    simp only [half, spelledLow, unpaired, if_false] at found
    cases found
  case case23 =>
    intro seen point rest few empty value left found
    rw [lexBraced, if_neg few, if_pos rfl, if_neg empty] at found
    cases found
  case case1 | case3 | case5 | case7 | case10 | case11 =>
    intros
    intro value left found
    rw [lexString.eq_def] at found
    simp_all
  case case13 | case15 | case18 | case19 =>
    intros
    intro value left found
    rw [lexNumbered.eq_def] at found
    simp_all
  case case20 | case21 | case24 =>
    intros
    intro value left found
    simp_all [lexBraced]

/-- A character with which neither the end of a block string nor an escape in it begins. -/
structure InBlock (c : Char) (rest : List Char) : Prop where
  closes : ∀ tail, c = '"' → rest ≠ '"' :: '"' :: tail
  escapes : ∀ tail, c = '\\' → rest ≠ '"' :: '"' :: '"' :: tail

/-- Three characters decide what begins with a character in front of them. -/
theorem InBlock.of_three {c a b d : Char} {tail : List Char}
    (inBlock : InBlock c (a :: b :: d :: tail)) (other : List Char) :
    InBlock c (a :: b :: d :: other) := by
  -- Two more characters decide about the end, and three about an escape.
  constructor
  · intro behind quote same
    simp only [List.cons.injEq] at same
    obtain ⟨rfl, rfl, -⟩ := same
    exact inBlock.closes _ quote rfl
  · intro behind escape same
    simp only [List.cons.injEq] at same
    obtain ⟨rfl, rfl, rfl, -⟩ := same
    exact inBlock.escapes _ escape rfl

/-- Three quotes behind a backslash stand for themselves. -/
theorem lexBlock_escape (rest : List Char) :
    lexBlock ('\\' :: '"' :: '"' :: '"' :: rest) =
      (lexBlock rest).map fun found => (consLine ['"', '"', '"'] found.1, found.2) := by
  rw [lexBlock.eq_def]
  rfl

/-- A line break begins a line. -/
theorem lexBlock_line {c : Char} {rest : List Char} (line : c = '\n' ∨ c = '\r')
    (single : ∀ tail, c = '\r' → rest ≠ '\n' :: tail) :
    lexBlock (c :: rest) = (lexBlock rest).map fun found => ([] :: found.1, found.2) := by
  -- A break is neither a quote nor a backslash, which the equations ask for.
  have other : c ≠ '"' ∧ c ≠ '\\' := by rcases line with rfl | rfl <;> decide
  cases rest with
  | nil =>
    rw [lexBlock.eq_6 c (fun _ quote => (other.1 quote).elim)
      (fun _ escape => (other.2 escape).elim) single, if_pos line]
  | cons d others =>
    rw [lexBlock.eq_5 c d others (fun _ quote => (other.1 quote).elim)
      (fun _ escape => (other.2 escape).elim) single, if_pos line]

/-- A character without a meaning of its own stands for itself. -/
theorem lexBlock_plain {c : Char} {rest : List Char} (inBlock : InBlock c rest)
    (line : ¬(c = '\n' ∨ c = '\r')) (whole : Text.carriesHalf c = false) :
    lexBlock (c :: rest) = (lexBlock rest).map fun found => (consLine [c] found.1, found.2) := by
  have closes := inBlock.closes
  have escapes := inBlock.escapes
  -- All branches but one are ruled out by what the character does not begin.
  rw [lexBlock.eq_def]
  split <;> simp_all

/-- Two halves that make a character stand for themselves. -/
theorem lexBlock_pair {c d : Char} {rest : List Char} (inBlock : InBlock c (d :: rest))
    (line : ¬(c = '\n' ∨ c = '\r')) (half : Text.carriesHalf c = true)
    (pair : Text.isPair c d = true) :
    lexBlock (c :: d :: rest) =
      (lexBlock rest).map fun found => (consLine [c, d] found.1, found.2) := by
  rw [lexBlock.eq_5 c d rest inBlock.closes inBlock.escapes
    (fun _ single => (line (.inr single)).elim), if_neg line, if_neg (by simp [half]), if_pos pair]

/-- What ends the block string that is read is among the characters of its text. -/
def SparesQuotes (text : List Char) : Prop :=
  ∀ lines rest, lexBlock text = .ok (lines, rest) → rest.length + 3 ≤ text.length

/-- Characters in front of what ends a block string leave its end where it is. -/
theorem SparesQuotes.of_map {tail : List Char} (start : List Char)
    (make : List (List Char) → List (List Char))
    (here : lexBlock (start ++ tail) = (lexBlock tail).map fun found => (make found.1, found.2))
    (spares : SparesQuotes tail) : SparesQuotes (start ++ tail) := by
  intro lines rest found
  rw [here] at found
  -- Only a tail that ends has lines to be made something of.
  cases read : lexBlock tail with
  | error fault => simp [read, Except.map] at found
  | ok result =>
    simp only [read, Except.map, Except.ok.injEq, Prod.mk.injEq] at found
    obtain ⟨rfl, rfl⟩ := found
    have enough := spares _ _ read
    rw [List.length_append]
    omega

/-- A block string that ends has the three quotes that end it. -/
theorem sparesQuotes (text : List Char) : SparesQuotes text := by
  -- The three quotes stay in the text while the characters in front of them are read.
  induction text using lexBlock.induct with
  | case1 =>
    intro lines rest read
    simp [lexBlock] at read
  | case2 rest =>
    intro lines left read
    rw [lexBlock.eq_2] at read
    cases read
    simp
  | case3 rest spares =>
    exact spares.of_map ['\\', '"', '"', '"'] (consLine ['"', '"', '"']) (lexBlock_escape rest)
  | case4 rest spares => exact spares.of_map ['\r', '\n'] ([] :: ·) (lexBlock.eq_4 rest)
  | case5 c rest closes escapes breaks line spares =>
    exact spares.of_map [c] ([] :: ·) (lexBlock_line line breaks)
  | case6 c rest closes escapes breaks line whole spares =>
    exact spares.of_map [c] (consLine [c])
      (lexBlock_plain ⟨closes, escapes⟩ line (by simpa using whole))
  | case7 c line half d others pair closes escapes breaks spares =>
    exact spares.of_map [c, d] (consLine [c, d])
      (lexBlock_pair ⟨closes, escapes⟩ line (by simpa using half) pair)
  | case8 c line half d others pair closes escapes breaks =>
    intro lines rest read
    rw [lexBlock.eq_5 c d others closes escapes breaks, if_neg line, if_neg half,
      if_neg pair] at read
    cases read
  | case9 c line half closes escapes breaks =>
    intro lines rest read
    rw [lexBlock.eq_6 c closes escapes breaks, if_neg line, if_neg half] at read
    cases read

/-- Three characters of a block string are the same whatever stands behind its end. -/
theorem decided_of_lexBlock {inside rest : List Char} {lines : List (List Char)}
    (read : lexBlock (inside ++ '"' :: rest) = .ok (lines, rest)) (more : List Char) :
    ∃ a b c tail other, inside ++ '"' :: rest = a :: b :: c :: tail ∧
      inside ++ '"' :: more = a :: b :: c :: other := by
  -- Of the three quotes at the end only the last one is not inside.
  have enough := sparesQuotes _ _ _ read
  rw [List.length_append, List.length_cons] at enough
  match inside, enough with
  | [], enough | [_], enough =>
    simp only [List.length_cons, List.length_nil] at enough
    omega
  | [a, b], _ => exact ⟨a, b, '"', rest, more, rfl, rfl⟩
  | a :: b :: c :: tail, _ => exact ⟨a, b, c, _, _, rfl, rfl⟩

/-- Block strings end where they do whatever follows. -/
theorem ended_block (text : List Char) : Ended lexBlock text := by
  -- One case for each branch; only the plain characters look at what is behind them.
  induction text using lexBlock.induct with
  | case1 =>
    intro value rest found
    simp [lexBlock] at found
  | case2 rest =>
    intro value left found
    rw [lexBlock.eq_2] at found
    cases found
    exact ⟨['"', '"'], rfl, fun more => lexBlock.eq_2 more⟩
  | case3 rest ended =>
    exact ended.of_map ['\\', '"', '"', '"'] (consLine ['"', '"', '"']) (lexBlock_escape rest)
      fun _ _ _ _ _ more => lexBlock_escape _
  | case4 rest ended =>
    exact ended.of_map ['\r', '\n'] ([] :: ·) (lexBlock.eq_4 rest)
      fun _ _ _ _ _ more => lexBlock.eq_4 _
  | case5 c rest closes escapes breaks line ended =>
    refine ended.of_map [c] ([] :: ·) (lexBlock_line line breaks) ?_
    rintro value inside left read rfl more
    obtain ⟨a, b, d, tail, other, same, also⟩ := decided_of_lexBlock read more
    rw [same] at breaks
    rw [also]
    refine lexBlock_line line fun behind single same => ?_
    obtain ⟨rfl, -⟩ := List.cons.inj same
    exact breaks _ single rfl
  | case6 c rest closes escapes breaks line whole ended =>
    have whole : Text.carriesHalf c = false := by simpa using whole
    refine ended.of_map [c] (consLine [c]) (lexBlock_plain ⟨closes, escapes⟩ line whole) ?_
    rintro value inside left read rfl more
    obtain ⟨a, b, d, tail, other, same, also⟩ := decided_of_lexBlock read more
    have inBlock : InBlock c (inside ++ '"' :: left) := ⟨closes, escapes⟩
    rw [same] at inBlock
    rw [also]
    exact lexBlock_plain (inBlock.of_three other) line whole
  | case7 c line half d others pair closes escapes breaks ended =>
    have half : Text.carriesHalf c = true := by simpa using half
    refine ended.of_map [c, d] (consLine [c, d])
      (lexBlock_pair ⟨closes, escapes⟩ line half pair) ?_
    rintro value inside left read rfl more
    obtain ⟨a, b, e, tail, other, same, also⟩ := decided_of_lexBlock read more
    have inBlock : InBlock c (d :: (inside ++ '"' :: left)) := ⟨closes, escapes⟩
    rw [same] at inBlock
    rw [also]
    exact lexBlock_pair (inBlock.of_three (e :: other)) line half pair
  | case8 c line half d others pair closes escapes breaks =>
    intro value rest found
    rw [lexBlock.eq_5 c d others closes escapes breaks, if_neg line, if_neg half,
      if_neg pair] at found
    cases found
  | case9 c line half closes escapes breaks =>
    intro value rest found
    rw [lexBlock.eq_6 c closes escapes breaks, if_neg line, if_neg half] at found
    cases found

end AppSync.Sdl
