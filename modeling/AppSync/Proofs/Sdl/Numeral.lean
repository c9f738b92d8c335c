import AppSync.Number.Shortest
import AppSync.Proofs.Sdl.Scanning
import AppSync.Proofs.Text.Decimal

/-! Numbers of a schema document: what is written of one is a single token. -/

namespace AppSync.Sdl

/-- Digits, of which there is one. -/
structure IsDigits (text : List Char) : Prop where
  some_digit : text ≠ []
  digits : ∀ c ∈ text, c.isDigit = true

/-- Digits are split off what begins with none. -/
theorem lexDigits_append {digits rest : List Char} (all : IsDigits digits)
    (stops : ∀ c ∈ rest.head?, c.isDigit = false) :
    lexDigits (digits ++ rest) = .ok (digits, rest) := by
  -- All digits are taken, and nothing of what is behind them.
  obtain ⟨taken, dropped⟩ := Text.takeWhile_append_of_stops digits stops
  rw [List.takeWhile_eq_self_iff.mpr all.digits] at taken
  rw [List.dropWhile_eq_nil_iff.mpr all.digits, List.nil_append] at dropped
  match digits, all with
  | c :: others, all =>
    rw [List.cons_append] at taken dropped
    rw [List.cons_append, lexDigits, if_pos (all.digits c List.mem_cons_self), taken, dropped]
  | [], all => exact (all.some_digit rfl).elim

/-- The parts of a number: only a single zero leads, and fraction and exponent have digits. -/
structure IsNumber (whole fraction exponent : List Char) : Prop where
  counted : IsDigits whole
  led : whole.head? = some '0' → whole = ['0']
  pointed : fraction = [] ∨ ∃ digits, IsDigits digits ∧ fraction = '.' :: digits
  scaled : exponent = [] ∨ ∃ sign digits, (sign = '+' ∨ sign = '-') ∧ IsDigits digits ∧
    exponent = 'e' :: sign :: digits

namespace IsNumber

variable {whole fraction exponent : List Char}

/-- The exponent begins with its letter. -/
theorem head_exponent (number : IsNumber whole fraction exponent) :
    ∀ c ∈ exponent.head?, c = 'e' := by
  rcases number.scaled with rfl | ⟨sign, digits, signed, all, rfl⟩
  · exact fun c first => nomatch first
  · intro c first
    cases first
    rfl

/-- What is behind the whole part begins with a point or a letter. -/
theorem head_fraction (number : IsNumber whole fraction exponent) :
    ∀ c ∈ (fraction ++ exponent).head?, c = '.' ∨ c = 'e' := by
  rcases number.pointed with rfl | ⟨digits, all, rfl⟩
  · exact fun c first => .inr (number.head_exponent c first)
  · intro c first
    cases first
    exact .inl rfl

/-- The whole part is read. -/
theorem lexWhole_eq (number : IsNumber whole fraction exponent) :
    lexWhole (whole ++ (fraction ++ exponent)) = .ok (whole, fraction ++ exponent) := by
  -- A point and a letter are no digits.
  have stops : ∀ c ∈ (fraction ++ exponent).head?, c.isDigit = false := by
    intro c first
    rcases number.head_fraction c first with rfl | rfl <;> decide
  have read := lexDigits_append number.counted stops
  unfold lexWhole
  split
  · rename_i c others same
    match whole, number with
    | d :: digits, number =>
      rw [List.cons_append, List.cons.injEq] at same
      obtain ⟨rfl, same⟩ := same
      -- A zero that leads is the only digit, and no digit is behind it.
      have single := number.led rfl
      rw [List.cons.injEq] at single
      obtain ⟨-, rfl⟩ := single
      rw [List.nil_append] at same
      rw [same] at stops ⊢
      rw [if_neg (by simp [stops c rfl])]
    | [], number => exact (number.counted.some_digit rfl).elim
  · exact read

/-- The fraction is read. -/
theorem lexFraction_eq (number : IsNumber whole fraction exponent) :
    lexFraction (fraction ++ exponent) = .ok (fraction, exponent) := by
  have first := number.head_exponent
  -- Without a point what follows is the exponent or nothing.
  rcases number.pointed with rfl | ⟨digits, all, rfl⟩
  · refine lexFraction_of_ne fun c begins => ?_
    rw [first c begins]
    decide
  · have stops : ∀ c ∈ exponent.head?, c.isDigit = false := by
      intro c begins
      rw [first c begins]
      decide
    simp [lexFraction, lexDigits_append all stops, Except.map]

/-- The exponent is read. -/
theorem lexExponent_eq (number : IsNumber whole fraction exponent) :
    lexExponent exponent = .ok (exponent, []) := by
  rcases number.scaled with rfl | ⟨sign, digits, signed, all, rfl⟩
  · rfl
  · have read := @lexDigits_append digits [] all fun c first => nomatch first
    rw [List.append_nil] at read
    simp [lexExponent, signed, read, Except.map]

/-- A number is a single token, with or without a sign. -/
theorem prints (number : IsNumber whole fraction exponent) {sign : List Char}
    (signed : sign = [] ∨ sign = ['-']) :
    Prints (sign ++ whole ++ fraction ++ exponent)
      [if fraction = [] ∧ exponent = [] then
        .integer (String.ofList (sign ++ whole ++ fraction ++ exponent))
      else .decimal (String.ofList (sign ++ whole ++ fraction ++ exponent))] := by
  have read : lexUnsigned sign (whole ++ (fraction ++ exponent)) =
      .ok (if fraction = [] ∧ exponent = [] then
        .integer (String.ofList (sign ++ whole ++ fraction ++ exponent))
      else .decimal (String.ofList (sign ++ whole ++ fraction ++ exponent)), []) := by
    simp only [lexUnsigned, number.lexWhole_eq, number.lexFraction_eq, number.lexExponent_eq, bind,
      Except.bind, numberToken]
  -- The lexer is sent to the number by its first digit or by its sign.
  obtain ⟨c, digits, rfl⟩ := List.exists_cons_of_ne_nil number.counted.some_digit
  have digit : c.isDigit = true := number.counted.digits c List.mem_cons_self
  have part : isNamePart c = true := isNamePart_of (.inl digit)
  refine .of_scans ?_
  rcases signed with rfl | rfl
  · refine .token (by simp) ?_ (.done [])
    have quote : c ≠ '"' := by
      rintro rfl
      exact absurd digit (by decide)
    have point : c ≠ '.' := by
      rintro rfl
      exact absurd digit (by decide)
    have unsigned : ∀ d ∈ (c :: digits ++ (fraction ++ exponent)).head?, d ≠ '-' := by
      intro d first minus
      cases first
      subst minus
      exact absurd digit (by decide)
    rw [← read, ← lexNumber_of_ne unsigned]
    simp only [List.nil_append, List.cons_append, List.append_assoc]
    rw [lexToken_plain quote point, ofChar?_of_isNamePart part]
    simp only [digit, true_or, if_true]
  · refine .token (by simp) ?_ (.done [])
    rw [← read, ← lexNumber_minus]
    simp only [List.nil_append, List.cons_append, List.append_assoc]
    rw [lexToken_plain (by decide) (by decide)]
    rfl

end IsNumber

/-- The digits of a number are digits. -/
theorem isDigits_toDigits (value : Nat) : IsDigits (Nat.toDigits 10 value) :=
  ⟨Nat.toDigits_ne_nil, fun _ member => Nat.isDigit_of_mem_toDigits (by decide) (by decide) member⟩

/-- An integer is a single token. -/
theorem Prints.integer (value : Int) :
    Prints (toString value).toList [.integer (toString value)] := by
  -- An integer is a whole part alone, and its digits lead with no zero.
  have number (size : Nat) : IsNumber (Nat.toDigits 10 size) [] [] :=
    ⟨isDigits_toDigits size, fun zero => by rw [Text.eq_zero_of_head?_toDigits zero]; rfl, .inl rfl,
      .inl rfl⟩
  have signed : (if value < 0 then ['-'] else []) = [] ∨
      (if value < 0 then ['-'] else []) = ['-'] := by
    split
    · exact .inr rfl
    · exact .inl rfl
  have printed := (number value.natAbs).prints signed
  simp only [List.append_nil, and_self, if_true] at printed
  rw [← Text.toList_toString_int, String.ofList_toList] at printed
  exact printed

/-- Digits behind others are digits. -/
theorem IsDigits.append {digits more : List Char} (all : IsDigits digits)
    (others : ∀ c ∈ more, c.isDigit = true) : IsDigits (digits ++ more) := by
  refine ⟨by simp [all.some_digit], fun c member => ?_⟩
  rcases List.mem_append.mp member with first | second
  · exact all.digits c first
  · exact others c second

/-- Zeros are digits. -/
theorem isDigit_of_mem_replicate {count : Nat} :
    ∀ c ∈ List.replicate count '0', c.isDigit = true := by
  intro c member
  rw [(List.mem_replicate.mp member).2]
  decide

/-- A whole part that another digit than zero leads. -/
theorem IsNumber.of_ne_zero {first : Char} {others fraction exponent : List Char}
    (led : first ≠ '0') (counted : IsDigits (first :: others))
    (pointed : fraction = [] ∨ ∃ digits, IsDigits digits ∧ fraction = '.' :: digits)
    (scaled : exponent = [] ∨ ∃ sign digits, (sign = '+' ∨ sign = '-') ∧ IsDigits digits ∧
      exponent = 'e' :: sign :: digits) :
    IsNumber (first :: others) fraction exponent :=
  ⟨counted, fun zero => (led (Option.some.inj zero)).elim, pointed, scaled⟩

/-- Some of given digits are digits. -/
theorem IsDigits.of_subset {digits part : List Char} (all : IsDigits digits)
    (some_digit : part ≠ []) (inside : part ⊆ digits) : IsDigits part :=
  ⟨some_digit, fun c member => all.digits c (inside member)⟩

/-- A single zero. -/
theorem isDigits_zero : IsDigits ['0'] :=
  ⟨by simp, by simp⟩

/-- A text that is a number with a fraction or an exponent. -/
def IsDecimal (text : List Char) : Prop :=
  ∃ whole fraction exponent, text = whole ++ fraction ++ exponent ∧
    IsNumber whole fraction exponent ∧ ¬(fraction = [] ∧ exponent = [])

namespace IsDecimal

variable {first : Char} {others : List Char}

/-- Digits that zeros fill up to a whole part. -/
theorem filled (led : first ≠ '0') (all : IsDigits (first :: others)) (zeros : Nat) :
    IsDecimal (first :: others ++ List.replicate zeros '0' ++ ['.', '0']) := by
  have whole := all.append (@isDigit_of_mem_replicate zeros)
  exact ⟨_, ['.', '0'], [], by simp,
    .of_ne_zero led whole (.inr ⟨['0'], isDigits_zero, rfl⟩) (.inl rfl), by simp⟩

/-- Digits among which the point stands. -/
theorem pointed (led : first ≠ '0') (all : IsDigits (first :: others)) {before : Nat}
    (fewer : before < others.length) :
    IsDecimal (first :: others.take before ++ '.' :: others.drop before) := by
  have whole : IsDigits (first :: others.take before) :=
    all.of_subset (by simp) (List.cons_subset_cons first (List.take_subset before others))
  have behind : IsDigits (others.drop before) := by
    refine all.of_subset ?_ (List.subset_cons_of_subset first (List.drop_subset before others))
    rw [ne_eq, List.drop_eq_nil_iff]
    omega
  exact ⟨first :: others.take before, '.' :: others.drop before, [], by simp,
    .of_ne_zero led whole (.inr ⟨_, behind, rfl⟩) (.inl rfl), by simp⟩

/-- Digits behind the point and further zeros. -/
theorem behindZeros {digits : List Char} (all : IsDigits digits) (zeros : Nat) :
    IsDecimal ('0' :: '.' :: List.replicate zeros '0' ++ digits) := by
  have behind : IsDigits (List.replicate zeros '0' ++ digits) := by
    refine ⟨by simp [all.some_digit], fun c member => ?_⟩
    rcases List.mem_append.mp member with zero | digit
    · exact isDigit_of_mem_replicate c zero
    · exact all.digits c digit
  exact ⟨['0'], '.' :: (List.replicate zeros '0' ++ digits), [], by simp,
    ⟨isDigits_zero, fun _ => rfl, .inr ⟨_, behind, rfl⟩, .inl rfl⟩, by simp⟩

/-- A digit in front of the point, the others behind it, and an exponent. -/
theorem scaled (led : first ≠ '0') (all : IsDigits (first :: others)) {sign : Char}
    (signed : sign = '+' ∨ sign = '-') {power : List Char} (counted : IsDigits power) :
    IsDecimal (first :: (if others = [] then [] else '.' :: others) ++ 'e' :: sign :: power) := by
  have single : IsDigits [first] := all.of_subset (by simp) (by simp)
  refine ⟨[first], if others = [] then [] else '.' :: others, _, rfl,
    .of_ne_zero led single ?_ (.inr ⟨_, _, signed, counted, rfl⟩), by simp⟩
  cases others with
  | nil => exact .inl rfl
  | cons second more =>
    exact .inr ⟨_, all.of_subset (by simp) (List.subset_cons_self first _), rfl⟩

end IsDecimal

/-- A decimal is written as a number with a fraction or an exponent. -/
theorem isDecimal_written {decimal : Binary64.Decimal} (positive : decimal.digits ≠ 0) :
    IsDecimal (decimal.written Binary64.standardLayout) := by
  have all := isDigits_toDigits decimal.digits
  have led : (Nat.toDigits 10 decimal.digits).head? ≠ some '0' :=
    fun zero => positive (Text.eq_zero_of_head?_toDigits zero)
  unfold Binary64.Decimal.written
  generalize Nat.toDigits 10 decimal.digits = digits at all led
  obtain ⟨first, others, rfl⟩ := List.exists_cons_of_ne_nil all.some_digit
  rw [List.head?_cons, ne_eq, Option.some.injEq] at led
  dsimp only
  -- The layouts differ in where the point stands and where zeros fill up.
  split
  · split
    · exact .filled led all _
    · split
      · rename_i fractional place
        rw [List.length_cons] at place ⊢
        exact .pointed led all (by omega)
      · exact .behindZeros all _
  · generalize (↑(first :: others).length + decimal.power - 1 : Int) = place
    have power : IsDigits (List.replicate (Binary64.standardLayout.exponentDigits -
        (Nat.toDigits 10 place.natAbs).length) '0' ++ Nat.toDigits 10 place.natAbs) := by
      have written := isDigits_toDigits place.natAbs
      refine ⟨by simp [written.some_digit], fun c member => ?_⟩
      rcases List.mem_append.mp member with zero | digit
      · exact isDigit_of_mem_replicate c zero
      · exact written.digits c digit
    have signed : (if place < 0 then '-' else '+') = '+' ∨
        (if place < 0 then '-' else '+') = '-' := by
      split
      · exact .inr rfl
      · exact .inl rfl
    have number := IsDecimal.scaled led all signed power
    cases others <;> simpa using number

/-- Dropping zeros leaves a digit. -/
theorem digits_trimmed_ne_zero {decimal : Binary64.Decimal} (positive : decimal.digits ≠ 0)
    (fuel : Nat) : (decimal.trimmed fuel).digits ≠ 0 := by
  -- A tenth is taken of a multiple of ten only, which leaves a digit.
  induction fuel generalizing decimal with
  | zero => exact positive
  | succ fuel ih =>
    unfold Binary64.Decimal.trimmed
    split
    · rename_i zeros
      exact ih (by dsimp only; omega)
    · exact positive

/-- Of two candidates, only one that is not zero is taken. -/
theorem ne_zero_of_candidates {first second found : Nat} {reads : Nat → Bool}
    (taken : (if first ≠ 0 && reads first then some first
      else if second ≠ 0 && reads second then some second else none) = some found) :
    found ≠ 0 := by
  -- Each of the two is asked whether it is zero before it is taken.
  split at taken
  · rename_i suits
    cases taken
    exact of_decide_eq_true (Bool.and_eq_true_iff.mp suits).1
  · split at taken
    · rename_i suits
      cases taken
      exact of_decide_eq_true (Bool.and_eq_true_iff.mp suits).1
    · cases taken

/-- The shortest decimal of a number other than zero has a digit. -/
theorem digits_searchGrids_ne_zero {significand : Nat} (positive : significand ≠ 0)
    (exponent : Int) (fuel : Nat) (power : Int) :
    (Binary64.searchGrids significand exponent fuel power).digits ≠ 0 := by
  -- A grid gives a candidate other than zero, or the next finer one is tried.
  induction fuel generalizing power with
  | zero => exact positive
  | succ fuel ih =>
    unfold Binary64.searchGrids
    split
    · rename_i digits found
      unfold Binary64.nearestOnGrid? at found
      extract_lets bounds low high ratio closed reads floor nearest other at found
      exact digits_trimmed_ne_zero (ne_zero_of_candidates found) 20
    · exact ih (power - 1)

/-- A finite number is a single token. -/
theorem Prints.decimal {value : Binary64} (finite : value.isFinite = true) :
    Prints value.text.toList [.decimal value.text] := by
  cases value with
  | infinite negative => cases finite
  | nan => cases finite
  | finite negative significand exponent =>
    -- Zero has a layout of its own; any other number that of its shortest decimal.
    have parts : IsDecimal (if significand = 0 then ['0', '.', '0']
        else (Binary64.shortest significand exponent).written Binary64.standardLayout) := by
      split
      · exact .behindZeros isDigits_zero 0
      · rename_i positive
        exact isDecimal_written (digits_searchGrids_ne_zero positive _ _ _)
    obtain ⟨whole, fraction, power, written, number, isDecimal⟩ := parts
    simp only [Binary64.text, written, String.toList_ofList]
    cases negative with
    | false =>
      have printed := @IsNumber.prints _ _ _ number [] (.inl rfl)
      simpa only [if_neg isDecimal, List.nil_append, Bool.false_eq_true, if_false] using printed
    | true =>
      have printed := @IsNumber.prints _ _ _ number ['-'] (.inr rfl)
      simpa only [if_neg isDecimal, List.cons_append, List.nil_append, if_true] using printed

end AppSync.Sdl
