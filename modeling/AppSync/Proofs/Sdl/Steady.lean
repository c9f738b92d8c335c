import Mathlib.Data.List.TakeWhile
import AppSync.Proofs.Sdl.Ending
import AppSync.Proofs.Sdl.Reading
import AppSync.Proofs.Text.Decimal

/-!
Tokens with what follows them in view: what is read as a token stays one in front of anything that
cannot go on with it.
-/

namespace AppSync.Sdl

/-- What goes on with no token: the end, or neither a part of a name, nor a point, nor a quote. -/
def Breaks (text : List Char) : Prop :=
  ∀ c ∈ text.head?, isNamePart c = false ∧ c ≠ '.' ∧ c ≠ '"'

/-- Digits and letters are parts of names. -/
theorem isNamePart_of {c : Char} (part : c.isDigit = true ∨ isNameStart c = true) :
    isNamePart c = true := by
  rcases part with digit | start
  · simp [isNamePart, digit]
  · simp [isNamePart, start]

/-- What goes on with no token begins with neither a digit nor a name, nor a point, nor a quote. -/
theorem Breaks.head {c : Char} {text : List Char} (breaks : Breaks (c :: text)) :
    c.isDigit = false ∧ isNameStart c = false ∧ c ≠ '.' ∧ c ≠ '"' := by
  obtain ⟨part, point, quote⟩ := breaks c rfl
  -- Digits and letters would be parts of names.
  refine ⟨?_, ?_, point, quote⟩
  · cases digit : c.isDigit with
    | false => rfl
    | true => exact absurd (isNamePart_of (.inl digit)) (by simp [part])
  · cases start : isNameStart c with
    | false => rfl
    | true => exact absurd (isNamePart_of (.inr start)) (by simp [part])

/-- Whether a text goes on as another one does, or with no token. -/
def Onward (rest more : List Char) : Prop :=
  ∀ c ∈ more.head?, rest.head? = some c ∨ (isNamePart c = false ∧ c ≠ '.' ∧ c ≠ '"')

namespace Onward

variable {rest more : List Char}

/-- What goes on with the same character goes on in the same way. -/
theorem of_head (same : more.head? = rest.head?) : Onward rest more := by
  intro c first
  rw [Option.mem_def, same] at first
  exact .inl first

/-- What goes on with no token goes on in the same way behind whatever comes first. -/
theorem of_breaks (breaks : Breaks more) : Onward rest (rest ++ more) := by
  intro c first
  cases rest with
  | nil => exact .inr (breaks c first)
  | cons d others => exact .inl first

/-- What goes on behind one text goes on behind it with the same front. -/
theorem append (onward : Onward rest more) (front : List Char) :
    Onward (front ++ rest) (front ++ more) := by
  intro c first
  cases front with
  | nil => exact onward c first
  | cons d front => exact .inl first

/-- What the first text does not go on with the second one does not either, if it is in a token. -/
theorem apart (onward : Onward rest more) {begins : Char → Prop}
    (here : ∀ c ∈ rest.head?, ¬begins c)
    (other : ∀ c, isNamePart c = false ∧ c ≠ '.' ∧ c ≠ '"' → ¬begins c) :
    ∀ c ∈ more.head?, ¬begins c := by
  intro c first
  rcases onward c first with same | breaks
  · exact here c same
  · exact other c breaks

/-- A run of characters that are parts of tokens is the same before what goes on in the same way. -/
theorem takeWhile {member : Char → Bool} {text : List Char}
    (onward : Onward (text.dropWhile member) more)
    (other : ∀ c, isNamePart c = false ∧ c ≠ '.' ∧ c ≠ '"' → ¬member c = true) :
    (text.takeWhile member ++ more).takeWhile member = text.takeWhile member ∧
      (text.takeWhile member ++ more).dropWhile member = more := by
  have all : ∀ c ∈ text.takeWhile member, member c = true := fun c => List.mem_takeWhile_imp
  -- The run ends where it did, since what is behind it begins with no member.
  have stops : ∀ c ∈ more.head?, member c = false := by
    have ended := List.head?_dropWhile_not member text
    have none := onward.apart (fun c first => by
      rw [Option.mem_def.mp first] at ended
      simp [ended]) other
    exact fun c first => by simpa using none c first
  obtain ⟨taken, dropped⟩ := Text.takeWhile_append_of_stops (text.takeWhile member) stops
  rw [taken, dropped, List.takeWhile_eq_self_iff.mpr all, List.dropWhile_eq_nil_iff.mpr all]
  exact ⟨rfl, rfl⟩

end Onward

/-- What breaks off is no digit. -/
theorem isDigit_of_breaks (c : Char) (breaks : isNamePart c = false ∧ c ≠ '.' ∧ c ≠ '"') :
    ¬c.isDigit = true := by
  intro digit
  simp [isNamePart_of (.inl digit)] at breaks

/-- A part of a number is read off the front, whatever goes on behind it in the same way. -/
def Splits (lexer : List Char → Except LexicalFault (List Char × List Char)) : Prop :=
  ∀ text value rest, lexer text = .ok (value, rest) → (text = value ++ rest ∧ '(' ∉ value) ∧
    ∀ more, Onward rest more → lexer (value ++ more) = .ok (value, more)

/-- Digits are split off, and there is one. -/
theorem lexDigits_ne_nil {text digits rest : List Char}
    (read : lexDigits text = .ok (digits, rest)) : digits ≠ [] := by
  cases text with
  | nil => cases read
  | cons c others =>
    simp only [lexDigits] at read
    split at read
    · rename_i digit
      cases read
      simp [digit]
    · cases read

/-- Digits are the same before what goes on in the same way. -/
theorem splits_digits : Splits lexDigits := by
  intro text value rest read
  cases text with
  | nil => cases read
  | cons c others =>
    simp only [lexDigits] at read
    split at read
    · rename_i digit
      cases read
      refine ⟨⟨(List.takeWhile_append_dropWhile).symm, fun member =>
        absurd (List.mem_takeWhile_imp member) (by decide)⟩, fun more onward => ?_⟩
      -- What goes on in the same way begins with no digit.
      obtain ⟨taken, dropped⟩ := onward.takeWhile isDigit_of_breaks
      rw [List.takeWhile_cons_of_pos digit] at taken dropped ⊢
      rw [List.cons_append] at taken dropped ⊢
      rw [lexDigits, if_pos digit, taken, dropped]
    · cases read

/-- The whole part is digits. -/
theorem lexWhole_ne_nil {text whole rest : List Char} (read : lexWhole text = .ok (whole, rest)) :
    whole ≠ [] := by
  unfold lexWhole at read
  split at read
  · split at read
    · cases read
    · cases read
      simp
  · exact lexDigits_ne_nil read

/-- A zero is a whole part before what goes on with no digit. -/
theorem lexWhole_zero {more : List Char} (stops : ∀ c ∈ more.head?, ¬c.isDigit = true) :
    lexWhole ('0' :: more) = .ok (['0'], more) := by
  cases more with
  | nil => rfl
  | cons c others => exact if_neg (stops c rfl)

/-- The whole part is the same before what goes on in the same way. -/
theorem splits_whole : Splits lexWhole := by
  intro text value rest read
  unfold lexWhole at read
  split at read
  · rename_i c others
    split at read
    · cases read
    · -- A zero in front of another character is the whole part.
      rename_i other
      cases read
      refine ⟨⟨rfl, by decide⟩,
        fun more onward => lexWhole_zero (onward.apart ?_ isDigit_of_breaks)⟩
      rintro d ⟨⟩
      exact other
  · rename_i alone
    obtain ⟨⟨parted, free⟩, extended⟩ := splits_digits text value rest read
    refine ⟨⟨parted, free⟩, fun more onward => ?_⟩
    -- Only a zero at the very end looks at what follows.
    match value, lexDigits_ne_nil read with
    | [d], _ =>
      by_cases zero : d = '0'
      · subst zero
        have last : rest = [] := by
          cases rest with
          | nil => rfl
          | cons e tail => exact (alone e tail parted).elim
        subst last
        exact lexWhole_zero (onward.apart (fun c first => nomatch first) isDigit_of_breaks)
      · rw [List.singleton_append, lexWhole.eq_2 _ fun c tail same => zero (List.cons.inj same).1]
        exact extended more onward
    | d :: e :: tail, _ =>
      rw [lexWhole.eq_2]
      · exact extended more onward
      · intro c others same
        simp only [List.cons_append, List.cons.injEq] at same
        obtain ⟨rfl, rfl, -⟩ := same
        exact alone _ _ parted

/-- What is read behind a part of a number is read in front of it too. -/
theorem Splits.behind {inner : List Char → Except LexicalFault (List Char × List Char)}
    (splits : Splits inner) {front : List Char} (free : '(' ∉ front) {tail value rest : List Char}
    (read : (inner tail).map (fun found => (front ++ found.1, found.2)) = .ok (value, rest)) :
    ∃ part, value = front ++ part ∧ (front ++ tail = value ++ rest ∧ '(' ∉ value) ∧
      ∀ more, Onward rest more →
        (inner (part ++ more)).map (fun found => (front ++ found.1, found.2)) =
          .ok (value, more) := by
  -- The rest is the one that the inner lexer leaves; the front comes back in the value.
  cases found : inner tail with
  | error fault =>
    rw [found] at read
    cases read
  | ok result =>
    obtain ⟨result, left⟩ := result
    obtain ⟨⟨rfl, without⟩, extended⟩ := splits _ _ _ found
    rw [found] at read
    cases read
    refine ⟨result, rfl, ⟨by rw [List.append_assoc], by simp [free, without]⟩,
      fun more onward => ?_⟩
    rw [extended more onward]
    rfl

/-- Without a point there is no fraction. -/
theorem lexFraction_of_ne {text : List Char} (whole : ∀ c ∈ text.head?, c ≠ '.') :
    lexFraction text = .ok ([], text) := by
  unfold lexFraction
  split
  · exact absurd rfl (whole _ rfl)
  · rfl

/-- The fraction is the same before what goes on in the same way. -/
theorem splits_fraction : Splits lexFraction := by
  intro text value rest read
  by_cases pointed : ∃ others, text = '.' :: others
  · -- Behind the point stand digits.
    obtain ⟨others, rfl⟩ := pointed
    obtain ⟨part, rfl, parted, extended⟩ :=
      @Splits.behind _ splits_digits ['.'] (by decide) _ _ _ read
    exact ⟨parted, extended⟩
  · have whole : ∀ c ∈ text.head?, c ≠ '.' := by
      rintro c first rfl
      exact pointed (List.head?_eq_some_iff.mp first)
    rw [lexFraction_of_ne whole] at read
    cases read
    exact ⟨⟨rfl, by simp⟩, fun more onward =>
      lexFraction_of_ne (onward.apart whole fun c breaks => breaks.2.1)⟩

/-- Without its letter there is no exponent. -/
theorem lexExponent_of_ne {text : List Char} (plain : ∀ c ∈ text.head?, ¬(c = 'e' ∨ c = 'E')) :
    lexExponent text = .ok ([], text) := by
  cases text with
  | nil => rfl
  | cons c others => exact if_neg (plain c rfl)

/-- The exponent is its letter, its sign and its digits. -/
theorem lexExponent_signed {c sign : Char} (letter : c = 'e' ∨ c = 'E')
    (signed : sign = '+' ∨ sign = '-') (digits : List Char) :
    lexExponent ([c, sign] ++ digits) =
      (lexDigits digits).map fun found => ([c, sign] ++ found.1, found.2) := by
  simp [lexExponent, letter, signed]

/-- Without a sign the digits stand behind the letter. -/
theorem lexExponent_unsigned {c first : Char} (letter : c = 'e' ∨ c = 'E')
    (unsigned : ¬(first = '+' ∨ first = '-')) {digits : List Char}
    (begins : digits.head? = some first) :
    lexExponent ([c] ++ digits) =
      (lexDigits digits).map fun found => ([c] ++ found.1, found.2) := by
  obtain ⟨tail, rfl⟩ := List.head?_eq_some_iff.mp begins
  simp [lexExponent, letter, unsigned]

/-- The exponent is the same before what goes on in the same way. -/
theorem splits_exponent : Splits lexExponent := by
  intro text value rest read
  by_cases lettered : ∃ c others, text = c :: others ∧ (c = 'e' ∨ c = 'E')
  · obtain ⟨c, others, rfl, letter⟩ := lettered
    cases others with
    | nil => simp [lexExponent, letter] at read
    | cons sign tail =>
      -- A sign behind the letter belongs to the exponent.
      by_cases signed : sign = '+' ∨ sign = '-'
      · have same := lexExponent_signed letter signed
        have free : '(' ∉ [c, sign] := by
          rcases letter with rfl | rfl <;> rcases signed with rfl | rfl <;> decide
        obtain ⟨part, rfl, parted, extended⟩ :=
          splits_digits.behind free ((same tail).symm.trans read)
        exact ⟨parted, fun more onward => by
          rw [List.append_assoc, same, extended more onward]⟩
      · have same {digits : List Char} (begins : digits.head? = some sign) :=
          lexExponent_unsigned letter signed begins
        have free : '(' ∉ [c] := by rcases letter with rfl | rfl <;> decide
        obtain ⟨part, rfl, ⟨parted, without⟩, extended⟩ :=
          splits_digits.behind free ((same rfl).symm.trans read)
        refine ⟨⟨parted, without⟩, fun more onward => ?_⟩
        -- The digits begin with the same character again.
        have first : (part ++ more).head? = some sign := by
          have some_digit : part ≠ [] := by
            rintro rfl
            have none := extended [] (fun c first => nomatch first)
            cases none
          obtain ⟨d, digits, rfl⟩ := List.exists_cons_of_ne_nil some_digit
          simp only [List.cons_append, List.nil_append, List.cons.injEq, true_and] at parted
          rw [parted.1]
          rfl
        rw [List.append_assoc, same first, extended more onward]
  · have plain : ∀ c ∈ text.head?, ¬(c = 'e' ∨ c = 'E') := by
      intro c first letter
      obtain ⟨tail, rfl⟩ := List.head?_eq_some_iff.mp first
      exact lettered ⟨c, tail, rfl, letter⟩
    rw [lexExponent_of_ne plain] at read
    cases read
    refine ⟨⟨rfl, by simp⟩, fun more onward => lexExponent_of_ne (onward.apart plain ?_)⟩
    rintro c breaks (rfl | rfl) <;> exact absurd breaks.1 (by decide)

/-- What a token is read off: strings end with a quote, and only they hold other parentheses. -/
def Token.ReadOff (front : List Char) : Token → Prop
  | .string _ | .block _ => ∃ inside, front = inside ++ ['"']
  | .mark .parenOpen => front = ['(']
  | _ => '(' ∉ front

/-- A token but a parenthesis that is read off a text may be read off it behind a character. -/
theorem Token.ReadOff.cons {token : Token} {front : List Char} (read : token.ReadOff front)
    (closed : token ≠ .mark .parenOpen) {c : Char} (other : c ≠ '(') :
    token.ReadOff (c :: front) := by
  have free (without : '(' ∉ front) : '(' ∉ c :: front := by simp [other.symm, without]
  -- A text still ends with its quote, and other tokens stay without parentheses.
  cases token with
  | string value | block value =>
    obtain ⟨inside, rfl⟩ := read
    exact ⟨c :: inside, rfl⟩
  | mark mark =>
    cases mark with
    | parenOpen => exact absurd rfl closed
    | _ => exact free read
  | _ => exact free read

/-- A token is read off the front of a text, whatever goes on behind it in the same way. -/
structure Steady (lexer : List Char → Except LexicalFault (Token × List Char)) (text : List Char)
    (token : Token) (rest : List Char) : Prop where
  split : ∃ front, front ≠ [] ∧ text = front ++ rest ∧ token.ReadOff front ∧
    ∀ more, Onward rest more → lexer (front ++ more) = .ok (token, more)
  sound : token.isFault = false ∧ token ≠ .finish

namespace Steady

variable {lexer : List Char → Except LexicalFault (Token × List Char)} {text rest : List Char}
  {token : Token}

/-- A token takes a character at least. -/
theorem shorter (steady : Steady lexer text token rest) : rest.length < text.length := by
  obtain ⟨front, some_char, rfl, -⟩ := steady.split
  have counted := List.length_pos_iff.mpr some_char
  rw [List.length_append]
  omega

/-- A token is the same before what goes on with no token. -/
theorem extended (steady : Steady lexer text token rest) (more : List Char)
    (breaks : Breaks more) : lexer (text ++ more) = .ok (token, rest ++ more) := by
  obtain ⟨front, -, rfl, -, onward⟩ := steady.split
  rw [List.append_assoc]
  exact onward _ (.of_breaks breaks)

end Steady

/-- The token of a number with its parts, which no name and no point may follow. -/
def numberToken (sign whole fraction exponent rest : List Char) :
    Except LexicalFault (Token × List Char) :=
  let written := String.ofList (sign ++ whole ++ fraction ++ exponent)
  let token := if fraction = [] ∧ exponent = [] then Token.integer written else .decimal written
  match rest with
  | c :: _ =>
    if c = '.' ∨ isNameStart c then .error (.digitExpected (some c)) else .ok (token, rest)
  | [] => .ok (token, rest)

/-- A number behind its sign. -/
def lexUnsigned (sign text : List Char) : Except LexicalFault (Token × List Char) := do
  let (whole, rest) ← lexWhole text
  let (fraction, rest) ← lexFraction rest
  let (exponent, rest) ← lexExponent rest
  numberToken sign whole fraction exponent rest

/-- A number with a sign is one behind it. -/
theorem lexNumber_minus (rest : List Char) : lexNumber ('-' :: rest) = lexUnsigned ['-'] rest :=
  rfl

/-- A number without a sign is one by itself. -/
theorem lexNumber_of_ne {text : List Char} (unsigned : ∀ c ∈ text.head?, c ≠ '-') :
    lexNumber text = lexUnsigned [] text := by
  unfold lexNumber
  split
  rename_i sign digits signed
  split at signed
  · exact absurd rfl (unsigned _ rfl)
  · cases signed
    rfl

/-- The parts of a number make a token that is the same before what goes on in the same way. -/
theorem numberToken_onward {sign whole fraction exponent rest left : List Char} {token : Token}
    (read : numberToken sign whole fraction exponent rest = .ok (token, left)) :
    left = rest ∧ (∃ written, token = .integer written ∨ token = .decimal written) ∧
      ∀ more, Onward rest more →
        numberToken sign whole fraction exponent more = .ok (token, more) := by
  have kind (written : String) (isInteger : Prop) [Decidable isInteger] :
      ∃ text, (if isInteger then Token.integer written else .decimal written) = .integer text ∨
        (if isInteger then Token.integer written else .decimal written) = .decimal text := by
    split
    · exact ⟨written, .inl rfl⟩
    · exact ⟨written, .inr rfl⟩
  -- Only a name and a point may not follow, and what is behind the number begins with neither.
  have settled {more : List Char} (apart : ∀ c ∈ more.head?, ¬(c = '.' ∨ isNameStart c = true)) :
      numberToken sign whole fraction exponent more =
        .ok (if fraction = [] ∧ exponent = [] then
            Token.integer (String.ofList (sign ++ whole ++ fraction ++ exponent))
          else .decimal (String.ofList (sign ++ whole ++ fraction ++ exponent)), more) := by
    cases more with
    | nil => rfl
    | cons c tail => exact if_neg (apart c rfl)
  have apart : ∀ c ∈ rest.head?, ¬(c = '.' ∨ isNameStart c = true) := by
    intro c first goes
    obtain ⟨tail, rfl⟩ := List.head?_eq_some_iff.mp first
    simp [numberToken, goes] at read
  rw [settled apart] at read
  cases read
  refine ⟨rfl, kind _ _, fun more onward => settled (onward.apart apart ?_)⟩
  rintro c breaks (rfl | start)
  · exact breaks.2.1 rfl
  · simp [isNamePart_of (.inr start)] at breaks

/-- A number behind its sign is steady. -/
theorem steady_unsigned {sign text rest : List Char} {token : Token}
    (read : lexUnsigned sign text = .ok (token, rest)) :
    Steady (lexUnsigned sign) text token rest := by
  unfold lexUnsigned at read
  -- The three parts are split off one after the other; each leaves its rest to the next.
  cases first : lexWhole text with
  | error fault =>
    rw [first] at read
    cases read
  | ok whole =>
    obtain ⟨whole, behindWhole⟩ := whole
    obtain ⟨⟨splitWhole, freeWhole⟩, onwardWhole⟩ := splits_whole _ _ _ first
    cases second : lexFraction behindWhole with
    | error fault =>
      simp only [first, second, bind, Except.bind] at read
      cases read
    | ok fraction =>
      obtain ⟨fraction, behindFraction⟩ := fraction
      obtain ⟨⟨splitFraction, freeFraction⟩, onwardFraction⟩ := splits_fraction _ _ _ second
      cases third : lexExponent behindFraction with
      | error fault =>
        simp only [first, second, third, bind, Except.bind] at read
        cases read
      | ok exponent =>
        obtain ⟨exponent, behindExponent⟩ := exponent
        obtain ⟨⟨splitExponent, freeExponent⟩, onwardExponent⟩ := splits_exponent _ _ _ third
        simp only [first, second, third, bind, Except.bind] at read
        obtain ⟨rfl, ⟨written, kind⟩, onwardToken⟩ := numberToken_onward read
        have free : '(' ∉ whole ++ fraction ++ exponent := by
          simp [freeWhole, freeFraction, freeExponent]
        refine ⟨⟨whole ++ fraction ++ exponent, by simp [lexWhole_ne_nil first], ?_, ?_, ?_⟩, ?_⟩
        · rw [splitWhole, splitFraction, splitExponent]
          simp only [List.append_assoc]
        · rcases kind with rfl | rfl <;> exact free
        · intro more onward
          rw [splitFraction, splitExponent] at onwardWhole
          rw [splitExponent] at onwardFraction
          simp only [lexUnsigned, List.append_assoc,
            onwardWhole _ ((onward.append exponent).append fraction),
            onwardFraction _ (onward.append exponent), onwardExponent _ onward,
            onwardToken _ onward, bind, Except.bind]
        · rcases kind with rfl | rfl <;> exact ⟨rfl, by simp⟩

/-- A number is steady. -/
theorem steady_number {text rest : List Char} {token : Token}
    (read : lexNumber text = .ok (token, rest)) : Steady lexNumber text token rest := by
  -- The sign is in the text already, or none is put in front of it.
  by_cases signed : ∃ digits, text = '-' :: digits
  · obtain ⟨digits, rfl⟩ := signed
    rw [lexNumber_minus] at read
    obtain ⟨⟨front, -, rfl, off, onward⟩, sound⟩ := steady_unsigned read
    -- No number begins with a parenthesis.
    have closed : token ≠ .mark .parenOpen := by
      rintro rfl
      obtain rfl : front = ['('] := off
      cases read
    exact ⟨⟨'-' :: front, by simp, rfl, off.cons closed (by decide), onward⟩, sound⟩
  · have other : ∀ c ∈ text.head?, c ≠ '-' := by
      rintro c first rfl
      exact signed (List.head?_eq_some_iff.mp first)
    rw [lexNumber_of_ne other] at read
    obtain ⟨⟨front, some_digit, rfl, off, onward⟩, sound⟩ := steady_unsigned read
    refine ⟨⟨front, some_digit, rfl, off, fun more goes => ?_⟩, sound⟩
    -- The number begins as it did, with no sign.
    obtain ⟨c, digits, rfl⟩ := List.exists_cons_of_ne_nil some_digit
    have same : ∀ d ∈ (c :: digits ++ more).head?, d ≠ '-' := other
    exact (lexNumber_of_ne same).trans (onward more goes)

/-- What begins with neither a quote nor a point is decided by its first character. -/
theorem lexToken_plain {c : Char} (quote : c ≠ '"') (point : c ≠ '.') (rest : List Char) :
    lexToken (c :: rest) =
      match Mark.ofChar? c with
      | some mark => .ok (.mark mark, rest)
      | none =>
        if c.isDigit ∨ c = '-' then lexNumber (c :: rest)
        else if isNameStart c then
          .ok (.name (String.ofList ((c :: rest).takeWhile isNamePart)),
            (c :: rest).dropWhile isNamePart)
        else if c = '\'' then .error .singleQuote
        else .error (faultOf .strayCharacter c rest) :=
  lexToken.eq_7 c rest (fun _ same => (quote same).elim) quote (fun _ same => (point same).elim)
    (fun _ same => (point same).elim) point

/-- A string is steady. -/
theorem steady_string {others rest : List Char} {token : Token}
    (apart : ∀ tail, others ≠ '"' :: '"' :: tail)
    (read : lexToken ('"' :: others) = .ok (token, rest)) :
    Steady lexToken ('"' :: others) token rest := by
  rw [lexToken.eq_3 _ apart] at read
  -- The string ends inside the text, so what follows it is not looked at.
  cases string : lexString others with
  | error fault =>
    rw [string] at read
    cases read
  | ok found =>
    obtain ⟨value, left⟩ := found
    rw [string] at read
    cases read
    obtain ⟨inside, rfl, extended⟩ := ended_string.1 _ _ _ string
    refine ⟨⟨'"' :: (inside ++ ['"']), by simp, by simp, ⟨'"' :: inside, rfl⟩, ?_⟩,
      ⟨rfl, by simp⟩⟩
    intro more onward
    -- An empty string is not made a block string by what follows it.
    have apart : ∀ tail, inside ++ '"' :: more ≠ '"' :: '"' :: tail := by
      intro tail same
      match inside with
      | [] =>
        obtain rfl : more = '"' :: tail := (List.cons.inj same).2
        rcases onward '"' rfl with first | breaks
        · obtain ⟨behind, rfl⟩ := List.head?_eq_some_iff.mp first
          exact apart behind rfl
        · exact breaks.2.2 rfl
      | [a] =>
        simp only [List.cons_append, List.nil_append, List.cons.injEq] at same
        obtain ⟨rfl, -⟩ := same
        exact apart _ rfl
      | a :: b :: others =>
        simp only [List.cons_append, List.cons.injEq] at same
        obtain ⟨rfl, rfl, -⟩ := same
        exact apart _ rfl
    rw [List.cons_append, List.append_assoc, List.singleton_append, lexToken.eq_3 _ apart, extended]
    rfl

/-- A block string is steady. -/
theorem steady_block {tail rest : List Char} {token : Token}
    (read : lexToken ('"' :: '"' :: '"' :: tail) = .ok (token, rest)) :
    Steady lexToken ('"' :: '"' :: '"' :: tail) token rest := by
  simp only [lexToken] at read
  cases lines : lexBlock tail with
  | error fault =>
    rw [lines] at read
    cases read
  | ok found =>
    obtain ⟨value, left⟩ := found
    rw [lines] at read
    cases read
    -- The end of the block is found before anything that may follow it.
    obtain ⟨inside, rfl, extended⟩ := ended_block _ _ _ lines
    refine ⟨⟨'"' :: '"' :: '"' :: (inside ++ ['"']), by simp, by simp,
      ⟨'"' :: '"' :: '"' :: inside, rfl⟩, fun more _ => ?_⟩, ⟨rfl, by simp⟩⟩
    simp only [List.cons_append, List.append_assoc, List.nil_append, lexToken, extended more]
    rfl

/-- Three points are steady; fewer are a fault. -/
theorem steady_points {others rest : List Char} {token : Token}
    (read : lexToken ('.' :: others) = .ok (token, rest)) :
    Steady lexToken ('.' :: others) token rest := by
  -- The lexer looks at two more characters to tell a spread from a fault.
  by_cases spread : ∃ tail, others = '.' :: '.' :: tail
  · obtain ⟨tail, rfl⟩ := spread
    cases read
    have free : '(' ∉ ['.', '.', '.'] := by decide
    exact ⟨⟨_, by simp, rfl, free, fun more _ => rfl⟩, ⟨rfl, by simp⟩⟩
  · have fewer : ∀ tail, others ≠ '.' :: '.' :: tail := fun tail same => spread ⟨tail, same⟩
    by_cases second : ∃ tail, others = '.' :: tail
    · obtain ⟨tail, rfl⟩ := second
      rw [lexToken.eq_5 tail fun more same => fewer more (by rw [same])] at read
      cases read
    · rw [lexToken.eq_6 others fewer fun tail same => second ⟨tail, same⟩] at read
      split at read <;> cases read

section Plain

variable {c : Char} {others rest : List Char} {token : Token}

/-- A mark is steady. -/
theorem steady_mark {mark : Mark} (quote : c ≠ '"') (point : c ≠ '.')
    (marked : Mark.ofChar? c = some mark) : Steady lexToken (c :: others) (.mark mark) others := by
  refine ⟨⟨[c], by simp, rfl, ?_, fun more _ => by
    rw [List.singleton_append, lexToken_plain quote point, marked]⟩, ⟨rfl, by simp⟩⟩
  -- Only one mark is written as an opening parenthesis.
  have free (other : mark ≠ .parenOpen) : '(' ∉ [c] := by
    intro member
    cases List.mem_singleton.mp member
    cases marked
    exact other rfl
  cases mark with
  | parenOpen =>
    unfold Mark.ofChar? at marked
    split at marked <;> cases marked
    rfl
  | _ => exact free (by simp)

/-- What begins like a number is steady, being read as one. -/
theorem steady_signed (quote : c ≠ '"') (point : c ≠ '.') (unmarked : Mark.ofChar? c = none)
    (number : c.isDigit ∨ c = '-') (read : lexNumber (c :: others) = .ok (token, rest)) :
    Steady lexToken (c :: others) token rest := by
  obtain ⟨⟨front, some_digit, parted, off, onward⟩, sound⟩ := steady_number read
  refine ⟨⟨front, some_digit, parted, off, fun more goes => ?_⟩, sound⟩
  -- The number begins with the same character.
  obtain ⟨d, digits, rfl⟩ := List.exists_cons_of_ne_nil some_digit
  obtain ⟨rfl, -⟩ := List.cons.inj parted
  rw [List.cons_append, lexToken_plain quote point, unmarked]
  simp only [if_pos number]
  exact onward more goes

/-- A name is steady: it ends where parts of names do. -/
theorem steady_name (quote : c ≠ '"') (point : c ≠ '.') (unmarked : Mark.ofChar? c = none)
    (unsigned : ¬(c.isDigit ∨ c = '-')) (start : isNameStart c) :
    Steady lexToken (c :: others) (.name (String.ofList ((c :: others).takeWhile isNamePart)))
      ((c :: others).dropWhile isNamePart) := by
  have part := isNamePart_of (.inr start)
  have free : '(' ∉ (c :: others).takeWhile isNamePart :=
    fun member => absurd (List.mem_takeWhile_imp member) (by decide)
  refine ⟨⟨_, by simp [part], List.takeWhile_append_dropWhile.symm, free, fun more goes => ?_⟩,
    ⟨rfl, by simp⟩⟩
  -- What goes on in the same way begins with no part of a name.
  obtain ⟨taken, dropped⟩ := goes.takeWhile fun d breaks => by simp [breaks.1]
  rw [List.takeWhile_cons_of_pos part] at taken dropped ⊢
  rw [List.cons_append] at taken dropped ⊢
  rw [lexToken_plain quote point, unmarked]
  simp only [if_neg unsigned, if_pos start, taken, dropped]

/-- A token that its first character decides is steady. -/
theorem steady_plain (quote : c ≠ '"') (point : c ≠ '.')
    (read : lexToken (c :: others) = .ok (token, rest)) :
    Steady lexToken (c :: others) token rest := by
  -- The cases are those of the lexer: a mark, a number, a name, and faults.
  rw [lexToken_plain quote point] at read
  cases marked : Mark.ofChar? c with
  | some mark =>
    rw [marked] at read
    cases read
    exact steady_mark quote point marked
  | none =>
    simp only [marked] at read
    by_cases number : c.isDigit ∨ c = '-'
    · rw [if_pos number] at read
      exact steady_signed quote point marked number read
    · rw [if_neg number] at read
      by_cases start : isNameStart c
      · rw [if_pos start] at read
        cases read
        exact steady_name quote point marked number start
      · rw [if_neg start] at read
        split at read <;> cases read

end Plain

/-- A token is steady. -/
theorem steady_token {text rest : List Char} {token : Token} (some_text : text ≠ [])
    (read : lexToken text = .ok (token, rest)) : Steady lexToken text token rest := by
  obtain ⟨c, others, rfl⟩ := List.exists_cons_of_ne_nil some_text
  -- Only behind a quote or a point does the lexer look at further characters.
  by_cases quote : c = '"'
  · subst quote
    by_cases block : ∃ tail, others = '"' :: '"' :: tail
    · obtain ⟨tail, rfl⟩ := block
      exact steady_block read
    · exact steady_string (fun tail same => block ⟨tail, same⟩) read
  · by_cases point : c = '.'
    · subst point
      exact steady_points read
    · exact steady_plain quote point read

end AppSync.Sdl
