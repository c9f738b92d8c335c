import AppSync.Proofs.Sdl.Steady

/-! Texts as the tokens that they are written for, put together part by part. -/

namespace AppSync.Sdl

/-- What is no part of a name or number, and neither a mark nor a quote, begins no token. -/
theorem exists_lexToken_stray {c : Char} (other : c ≠ '"' ∧ c ≠ '.' ∧ c ≠ '-' ∧ c ≠ '\'')
    (unmarked : Mark.ofChar? c = none) (outside : isNamePart c = false) (rest : List Char) :
    ∃ fault, lexToken (c :: rest) = .error fault := by
  obtain ⟨digit, start, -⟩ : c.isDigit = false ∧ isNameStart c = false ∧ c ≠ '.' ∧ c ≠ '"' :=
    @Breaks.head c [] fun d same => by
      cases same
      exact ⟨outside, other.2.1, other.1⟩
  rw [lexToken_plain other.1 other.2.1]
  simp [unmarked, digit, start, other]

/-- What separates tokens begins none, and neither does what begins a comment. -/
theorem apart_of_lexToken {c : Char} {text rest : List Char} {token : Token}
    (read : lexToken (c :: text) = .ok (token, rest)) : isSeparator c = false ∧ c ≠ '#' := by
  -- What begins no token is a fault, and none has been read.
  have stray (other : c ≠ '"' ∧ c ≠ '.' ∧ c ≠ '-' ∧ c ≠ '\'') (unmarked : Mark.ofChar? c = none)
      (outside : isNamePart c = false) : False := by
    obtain ⟨fault, failed⟩ := exists_lexToken_stray other unmarked outside text
    cases failed.symm.trans read
  constructor
  · cases separates : isSeparator c with
    | false => rfl
    | true =>
      simp only [isSeparator, Bool.or_eq_true, beq_iff_eq] at separates
      rcases separates with ((((rfl | rfl) | rfl) | rfl) | rfl) | rfl <;>
        exact (stray (by decide) rfl (by decide)).elim
  · rintro rfl
    exact stray (by decide) rfl (by decide)

/-- A text has tokens, whatever fuel beyond its length there is to find them. -/
def Lexes (text : List Char) (tokens : List Token) : Prop :=
  ∀ fuel, text.length < fuel → lexFrom fuel text = tokens

namespace Lexes

variable {text rest : List Char} {tokens : List Token}

/-- Nothing has the token of its end. -/
theorem nothing : Lexes [] [.finish] := by
  intro fuel enough
  cases fuel with
  | zero => exact absurd enough (Nat.lt_irrefl 0)
  | succ fuel => rfl

/-- What is skipped needs no fuel, so that the rest has the same tokens. -/
theorem skip (skipped : skipIgnored false text = skipIgnored false rest)
    (shorter : rest.length ≤ text.length) (lexes : Lexes rest tokens) : Lexes text tokens := by
  intro fuel enough
  cases fuel with
  | zero => exact absurd enough (Nat.not_lt_zero _)
  | succ fuel =>
    have same := lexes (fuel + 1) (by omega)
    rw [lexFrom] at same ⊢
    rwa [skipped]

/-- A separator is skipped. -/
theorem separator {c : Char} (separates : isSeparator c = true) (lexes : Lexes rest tokens) :
    Lexes (c :: rest) tokens := by
  refine lexes.skip ?_ (by simp)
  rw [skipIgnored, if_pos separates]

/-- Separators are skipped. -/
theorem separators {front : List Char} (separate : ∀ c ∈ front, isSeparator c = true)
    (lexes : Lexes rest tokens) : Lexes (front ++ rest) tokens := by
  induction front with
  | nil => exact lexes
  | cons c front ih =>
    exact .separator (separate c List.mem_cons_self)
      (ih fun d member => separate d (List.mem_cons_of_mem c member))

/-- In front of what begins neither a separator nor a comment there is nothing to skip. -/
theorem skipIgnored_eq (here : ∀ c ∈ text.head?, isSeparator c = false ∧ c ≠ '#') :
    skipIgnored false text = text := by
  cases text with
  | nil => rfl
  | cons c others =>
    obtain ⟨separates, comment⟩ := here c rfl
    rw [skipIgnored, if_neg (by simp [separates]), if_neg comment]

/-- A token stands in front of those of the rest. -/
theorem token (some_text : text ≠ []) {token : Token} (read : lexToken text = .ok (token, rest))
    (lexes : Lexes rest tokens) : Lexes text (token :: tokens) := by
  intro fuel enough
  have steady := steady_token some_text read
  have shorter := steady.shorter
  have here : ∀ c ∈ text.head?, isSeparator c = false ∧ c ≠ '#' := by
    intro c first
    obtain ⟨others, rfl⟩ := List.head?_eq_some_iff.mp first
    exact apart_of_lexToken read
  -- The token takes a character at least, so that the fuel is enough for the rest.
  cases fuel with
  | zero => exact absurd enough (Nat.not_lt_zero _)
  | succ fuel =>
    have same := lexes fuel (by omega)
    rw [lexFrom, skipIgnored_eq here, read]
    cases token with
    | finish => exact (steady.sound.2 rfl).elim
    | _ => rw [← same]

/-- A fault is the last token. -/
theorem fault {fault : LexicalFault} (failed : lexToken (skipIgnored false text) = .error fault) :
    Lexes text [.invalid fault] := by
  intro fuel enough
  cases fuel with
  | zero => exact absurd enough (Nat.not_lt_zero _)
  | succ fuel => rw [lexFrom, failed]

/-- A text is split into its tokens. -/
theorem lex_eq (lexes : Lexes text tokens) : lex text = tokens :=
  lexes _ (Nat.lt_succ_self _)

end Lexes

/-- The tokens that a text without comments begins with, and what is left of it. -/
inductive Scans : List Char → List Token → List Char → Prop where
  | done (rest : List Char) : Scans rest [] rest
  | separator {c : Char} {text rest : List Char} {tokens : List Token}
      (separates : isSeparator c = true) (scans : Scans text tokens rest) :
      Scans (c :: text) tokens rest
  | token {text middle rest : List Char} {token : Token} {tokens : List Token}
      (some_text : text ≠ []) (read : lexToken text = .ok (token, middle))
      (scans : Scans middle tokens rest) : Scans text (token :: tokens) rest

namespace Scans

variable {text middle rest : List Char} {tokens others : List Token}

/-- Tokens are followed by those of what is left. -/
theorem append (first : Scans text tokens middle) (second : Scans middle others rest) :
    Scans text (tokens ++ others) rest := by
  induction first with
  | done rest => exact second
  | separator separates _ ih => exact .separator separates (ih second)
  | token some_text read _ ih => exact .token some_text read (ih second)

/-- No token is a fault. -/
theorem clean (scans : Scans text tokens rest) : Clean tokens := by
  -- Only a token of the lexer is added at each step, and these are no faults.
  induction scans with
  | done rest => exact fun token member => by simp at member
  | separator separates _ ih => exact ih
  | token some_text read _ ih =>
    intro token member
    rcases List.mem_cons.mp member with rfl | member
    · exact (steady_token some_text read).sound.1
    · exact ih token member

/-- Neither is the end behind the tokens. -/
theorem clean_finish (scans : Scans text tokens rest) : Clean (tokens ++ [.finish]) := by
  intro token member
  rcases List.mem_append.mp member with member | member
  · exact scans.clean token member
  · rw [List.mem_singleton.mp member]
    rfl

/-- The same tokens are there before what goes on with no token. -/
theorem onward (scans : Scans text tokens rest) {more : List Char} (breaks : Breaks more) :
    Scans (text ++ more) tokens (rest ++ more) := by
  -- Separators are as they were; each token is one in front of anything that breaks.
  induction scans with
  | done rest => exact .done _
  | separator separates _ ih => exact .separator separates ih
  | token some_text read _ ih =>
    exact .token (by simp [some_text]) ((steady_token some_text read).extended _ breaks) ih

/-- A separator in front of the tokens of a text can be dropped. -/
theorem of_cons {c : Char} (separates : isSeparator c = true)
    (scans : Scans (c :: text) tokens []) : Scans text tokens [] := by
  -- A separator does not begin a token, so that it was read as a separator.
  cases scans with
  | separator _ scans => exact scans
  | token some_text read _ => simp [(apart_of_lexToken read).1] at separates

/-- Separators may stand in front. -/
theorem separators {front : List Char} (separate : ∀ c ∈ front, isSeparator c = true)
    (scans : Scans text tokens rest) : Scans (front ++ text) tokens rest := by
  induction front with
  | nil => exact scans
  | cons c front ih =>
    exact .separator (separate c List.mem_cons_self)
      (ih fun d member => separate d (List.mem_cons_of_mem c member))

/-- A text that is tokens up to its end has these tokens. -/
theorem lexes (scans : Scans text tokens []) : Lexes text (tokens ++ [.finish]) := by
  -- The induction is on the scan up to its end.
  generalize ends : ([] : List Char) = rest at scans
  induction scans with
  | done rest =>
    subst ends
    exact .nothing
  | separator separates _ ih => exact .separator separates (ih ends)
  | token some_text read _ ih => exact .token some_text read (ih ends)

/-- A text that is tokens up to its end is split into them. -/
theorem lex_eq (scans : Scans text tokens []) : lex text = tokens ++ [.finish] :=
  scans.lexes.lex_eq

end Scans

/-- A text is written for tokens if it is read as them before whatever goes on with no token. -/
def Prints (text : List Char) (tokens : List Token) : Prop :=
  ∀ rest, Breaks rest → Scans (text ++ rest) tokens rest

/-- What goes on with no token does not do so by what is written behind it. -/
theorem Breaks.append {text more : List Char} (breaks : Breaks text) (onward : Breaks more) :
    Breaks (text ++ more) := by
  cases text with
  | nil => exact onward
  | cons c others => exact breaks

namespace Prints

variable {text more : List Char} {tokens others : List Token}

/-- Nothing is written for no tokens. -/
theorem nil : Prints [] [] :=
  fun rest _ => .done rest

/-- A separator may stand in front. -/
theorem separator {c : Char} (separates : isSeparator c = true) (prints : Prints text tokens) :
    Prints (c :: text) tokens :=
  fun rest breaks => .separator separates (prints rest breaks)

/-- A mark is written as its character. -/
theorem mark {c : Char} {mark : Mark} (marked : Mark.ofChar? c = some mark)
    (prints : Prints text tokens) : Prints (c :: text) (.mark mark :: tokens) := by
  intro rest breaks
  -- The characters of marks are neither quotes nor points.
  have quote : c ≠ '"' := by
    rintro rfl
    cases marked
  have point : c ≠ '.' := by
    rintro rfl
    cases marked
  refine .token (by simp) ?_ (prints rest breaks)
  rw [List.cons_append, lexToken_plain quote point, marked]

/-- What goes on with no token may be written behind another text. -/
theorem append (first : Prints text tokens) (breaks : Breaks more) (second : Prints more others) :
    Prints (text ++ more) (tokens ++ others) := by
  -- The second text is what the first one meets, so it has to break in any company.
  intro rest onward
  rw [List.append_assoc]
  exact (first _ (breaks.append onward)).append (second rest onward)

/-- What is written for tokens is these by itself. -/
theorem scans (prints : Prints text tokens) : Scans text tokens [] := by
  have alone := prints [] fun c first => nomatch first
  rwa [List.append_nil] at alone

/-- What is tokens by itself is written for them. -/
theorem of_scans (scans : Scans text tokens []) : Prints text tokens :=
  fun _ breaks => scans.onward breaks

end Prints

/-- The names of the schema language. -/
def isName (name : String) : Bool :=
  match name.toList with
  | [] => false
  | c :: rest => isNameStart c && rest.all isNamePart

/-- A name has a first character, and all its characters are parts of names. -/
theorem exists_of_isName {name : String} (named : isName name = true) :
    ∃ c rest, name.toList = c :: rest ∧ isNameStart c = true ∧
      ∀ d ∈ c :: rest, isNamePart d = true := by
  unfold isName at named
  cases letters : name.toList with
  | nil => simp [letters] at named
  | cons c rest =>
    simp only [letters, Bool.and_eq_true, List.all_eq_true] at named
    obtain ⟨start, parts⟩ := named
    refine ⟨c, rest, rfl, start, fun d member => ?_⟩
    rcases List.mem_cons.mp member with rfl | member
    · exact isNamePart_of (.inr start)
    · exact parts d member

/-- A name begins with a letter of ASCII or an underscore. -/
theorem bounds_of_isNameStart {c : Char} (start : isNameStart c = true) :
    0x41 ≤ c.toNat ∧ c.toNat ≤ 0x7A := by
  -- Capitals, small letters and the underscore, each within its own range.
  have start : (c.isUpper = true ∨ c.isLower = true) ∨ c = '_' := by
    rw [isNameStart, Bool.or_eq_true, beq_iff_eq] at start
    exact start.imp_left Bool.or_eq_true_iff.mp
  rcases start with (upper | lower) | rfl
  · have range : 0x41 ≤ c.toNat ∧ c.toNat ≤ 0x5A := of_decide_eq_true upper
    omega
  · obtain ⟨above, below⟩ := Bool.and_eq_true_iff.mp lower
    have above : 0x61 ≤ c.toNat := of_decide_eq_true above
    have below : c.toNat ≤ 0x7A := of_decide_eq_true below
    omega
  · decide

/-- A name begins with no digit. -/
theorem isDigit_of_isNameStart {c : Char} (start : isNameStart c = true) : c.isDigit = false := by
  have above := (bounds_of_isNameStart start).1
  cases digit : c.isDigit with
  | false => rfl
  | true =>
    have below := (Text.bounds_of_isDigit digit).2
    omega

/-- A part of a name is no mark. -/
theorem ofChar?_of_isNamePart {c : Char} (part : isNamePart c = true) : Mark.ofChar? c = none := by
  -- Each of the marks is no part of a name.
  unfold Mark.ofChar?
  split
  case h_14 => rfl
  all_goals exact absurd part (by decide)

/-- A name is written as its characters. -/
theorem Prints.name {name : String} (named : isName name = true) :
    Prints name.toList [.name name] := by
  obtain ⟨c, rest, letters, start, parts⟩ := exists_of_isName named
  have part := parts c List.mem_cons_self
  -- A name begins with nothing that the lexer tries before it.
  have quote : c ≠ '"' := by
    rintro rfl
    exact absurd start (by decide)
  have point : c ≠ '.' := by
    rintro rfl
    exact absurd start (by decide)
  have unsigned : ¬(c.isDigit = true ∨ c = '-') := by
    rintro (digit | rfl)
    · simp [isDigit_of_isNameStart start] at digit
    · exact absurd start (by decide)
  have spelled : String.ofList (c :: rest) = name := by rw [← letters, String.ofList_toList]
  rw [letters]
  refine .of_scans (.token (by simp) ?_ (.done []))
  -- All characters are taken, since all are parts of names.
  rw [lexToken_plain quote point, ofChar?_of_isNamePart part]
  simp only [if_neg unsigned, if_pos start, List.takeWhile_eq_self_iff.mpr parts,
    List.dropWhile_eq_nil_iff.mpr parts, spelled]

end AppSync.Sdl
