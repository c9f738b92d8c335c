import AppSync.Toml.Scalar
import Mathlib.Data.List.Infix
import Mathlib.Data.List.TakeWhile

/-!
What readers of numbers, dates and times leave of a text is an end of it, and a number that is not
read has too many digits.
-/

namespace AppSync.Toml

variable {α β : Type} {chars whole : List Char}

/-- What is left behind anything that is found is an end of a text. -/
def Leaves (chars : List Char) (rest : α → List Char) (found : Option α) : Prop :=
  ∀ value ∈ found, rest value <:+ chars

namespace Leaves

variable {rest : α → List Char} {after : β → List Char}

/-- Nothing is found. -/
theorem none : Leaves chars rest none :=
  nofun

/-- Something is found. -/
theorem some {value : α} (within : rest value <:+ chars) : Leaves chars rest (some value) := by
  rintro _ ⟨⟩
  exact within

/-- One reader after another leaves an end of the text. -/
theorem bind {first : Option α} {next : α → Option β} (one : Leaves chars rest first)
    (other : ∀ value, rest value <:+ chars → Leaves chars after (next value)) :
    Leaves chars after (first >>= next) := by
  cases first with
  | none => exact none
  | some value => exact other value (one value rfl)

/-- A change of what is found leaves an end of the text if it leaves less. -/
theorem map {found : Option α} {change : α → β} (one : Leaves chars rest found)
    (less : ∀ value, rest value <:+ chars → after (change value) <:+ chars) :
    Leaves chars after (found.map change) := by
  cases found with
  | none => exact none
  | some value => exact some (less value (one value rfl))

/-- An end of an end of a text is an end of it. -/
theorem trans {found : Option α} (one : Leaves chars rest found) (within : chars <:+ whole) :
    Leaves whole rest found :=
  fun value inside => (one value inside).trans within

/-- What is found, or else the text itself, leaves an end of the text. -/
theorem getD {found : Option α} {default : α} (one : Leaves chars rest found)
    (within : rest default <:+ chars) : rest (found.getD default) <:+ chars := by
  cases found with
  | none => exact within
  | some value => exact one value rfl

end Leaves

/-! ## Numbers -/

/-- Digits that stand in a text, with underscores between them. -/
def HoldsDigits (text digits : List Char) : Prop :=
  ∃ run, run <:+: text ∧ (∀ c ∈ run, c.isDigit ∨ c = '_') ∧ run.filter (· ≠ '_') = digits

/-- Grouped digits stand in front of what is left. -/
theorem groupedDigits_spec (member : Char → Bool) (chars : List Char) :
    ∃ run, chars = run ++ (groupedDigits member chars).2 ∧
      (∀ c ∈ run, member c ∨ c = '_') ∧
      (member '_' = false → run.filter (· ≠ '_') = (groupedDigits member chars).1) := by
  -- One case for the end, two for an underscore, and two for any other character.
  fun_induction groupedDigits member chars with
  | case1 => exact ⟨[], rfl, nofun, fun _ => rfl⟩
  | case2 c rest digit found ih =>
    obtain ⟨run, split, members, digits⟩ := ih
    refine ⟨'_' :: c :: run, by rw [split]; rfl, ?_, fun none => ?_⟩
    · exact List.forall_mem_cons.mpr ⟨.inr rfl, List.forall_mem_cons.mpr ⟨.inl digit, members⟩⟩
    · have other : c ≠ '_' := fun same => by simp [same, none] at digit
      simp [other, found, ← digits none]
  | case3 c rest none => exact ⟨[], rfl, nofun, fun _ => rfl⟩
  | case4 c rest apart digit found ih =>
    obtain ⟨run, split, members, digits⟩ := ih
    refine ⟨c :: run, by rw [split]; rfl, List.forall_mem_cons.mpr ⟨.inl digit, members⟩, ?_⟩
    intro none
    have other : c ≠ '_' := fun same => by simp [same, none] at digit
    simp [other, found, ← digits none]
  | case5 c rest apart none => exact ⟨[], rfl, nofun, fun _ => rfl⟩

/-- Digits that are found are the grouped ones that a text begins with. -/
theorem eq_of_digits? {member : Char → Bool} {digits : List Char × List Char}
    (found : digits? member chars = some digits) : groupedDigits member chars = digits := by
  cases chars with
  | nil => cases found
  | cons c rest =>
    cases digit : member c with
    | false => simp [digits?, digit] at found
    | true => simpa [digits?, digit] using found

/-- Digits leave an end of the text. -/
theorem leaves_digits? (member : Char → Bool) (chars : List Char) :
    Leaves chars Prod.snd (digits? member chars) := by
  intro digits found
  obtain ⟨run, split, -⟩ := groupedDigits_spec member chars
  rw [eq_of_digits? found] at split
  exact ⟨run, split.symm⟩

/-- Decimal digits that are found stand in the text. -/
theorem holdsDigits_of_digits? {digits : List Char × List Char}
    (found : digits? Char.isDigit chars = some digits) : HoldsDigits chars digits.1 := by
  obtain ⟨run, split, members, filtered⟩ := groupedDigits_spec Char.isDigit chars
  rw [eq_of_digits? found] at filtered
  exact ⟨run, ⟨[], _, split.symm⟩, members, filtered (by decide)⟩

/-- A fraction leaves an end of the text. -/
theorem fraction_suffix (chars : List Char) : (fraction chars).2 <:+ chars := by
  unfold fraction
  split
  · exact ((leaves_digits? _ _).trans (List.suffix_cons _ _)).getD (List.suffix_refl _)
  · exact List.suffix_refl _

/-- An exponent leaves an end of the text. -/
theorem leaves_exponent? (chars : List Char) : Leaves chars Prod.snd (exponent? chars) := by
  unfold exponent?
  split
  · rename_i mark rest
    dsimp only
    split
    · -- A sign is passed, if there is one.
      have unsigned (signed : Prop) [Decidable signed] :
          (if signed then rest.drop 1 else rest) <:+ mark :: rest := by
        split
        · exact (List.drop_suffix 1 rest).trans (List.suffix_cons mark rest)
        · exact List.suffix_cons mark rest
      exact ((leaves_digits? _ _).trans (unsigned _)).map fun _ within => within
    · exact .none
  · exact .none

/-- What stands behind a sign is an end of the text. -/
theorem unsigned_suffix (signed : Prop) [Decidable signed] (chars : List Char) :
    (if signed then chars.drop 1 else chars) <:+ chars := by
  split
  · exact List.drop_suffix 1 chars
  · exact List.suffix_refl chars

/-- The whole part of a decimal number: a zero, or digits. -/
theorem leaves_whole (unsigned : List Char) :
    Leaves unsigned Prod.snd (match unsigned with
      | '0' :: rest => some (['0'], rest)
      | _ => digits? Char.isDigit unsigned) := by
  split
  · exact .some (List.suffix_cons _ _)
  · exact leaves_digits? _ _

/-- A decimal number leaves an end of the text. -/
theorem leaves_decimal? (chars : List Char) : Leaves chars Prod.snd (decimal? chars) := by
  unfold decimal?
  refine ((leaves_whole _).trans (unsigned_suffix _ chars)).map fun found within => ?_
  obtain ⟨whole, rest⟩ := found
  -- Behind the whole part there may be a fraction, and behind that an exponent.
  have behind := (fraction_suffix rest).trans within
  have exponent : ((exponent? (fraction rest).2).map (·.2)).getD (fraction rest).2 <:+ chars := by
    have left : Leaves chars id ((exponent? (fraction rest).2).map (·.2)) :=
      ((leaves_exponent? _).trans behind).map fun _ inside => inside
    exact left.getD behind
  dsimp only
  split
  · exact within
  · exact exponent

/-- A number leaves an end of the text. -/
theorem leaves_number? (chars : List Char) : Leaves chars Prod.snd (number? chars) := by
  unfold number?
  split
  · rename_i letter rest
    -- Digits of another base stand behind the two characters that announce it.
    have based : Leaves ('0' :: letter :: rest) (fun found => found.2.2)
        ((baseOf? letter).bind fun base => (digits? (isDigitOf base) rest).map (base, ·)) := by
      have announced : Leaves ('0' :: letter :: rest) (fun _ => rest) (baseOf? letter) :=
        fun _ _ => ⟨['0', letter], rfl⟩
      exact announced.bind fun base within =>
        ((leaves_digits? _ rest).trans within).map fun _ inside => inside
    split
    · rename_i base found same
      exact .some (based _ same)
    · exact leaves_decimal? _
  · exact leaves_decimal? _

/-- A number is refused only for the number of its digits, which stand in the text. -/
theorem holdsDigits_of_decimal? {accident : Accident} {rest : List Char}
    (refused : decimal? chars = some (.error accident, rest)) :
    ∃ digits, HoldsDigits chars digits ∧ Number.digitLimit < digits.length ∧
      accident = .longNumeral digits.length := by
  unfold decimal? at refused
  obtain ⟨⟨digits, after⟩, found, made⟩ := Option.map_eq_some_iff.mp refused
  dsimp only at made
  split at made
  · split at made
    · rename_i long
      obtain rfl : Accident.longNumeral digits.length = accident :=
        Except.error.inj (Prod.mk.inj made).1
      refine ⟨digits, ?_, long, rfl⟩
      -- A single zero is not long, so that the digits are grouped ones.
      split at found
      · obtain ⟨rfl, -⟩ := Prod.mk.inj (Option.some.inj found)
        exact absurd long (by decide)
      · obtain ⟨run, inside, rest⟩ := holdsDigits_of_digits? found
        exact ⟨run, inside.trans (unsigned_suffix _ chars).isInfix, rest⟩
    · cases (Prod.mk.inj made).1
  · cases (Prod.mk.inj made).1

/-- A number in any base is refused only for the number of its decimal digits. -/
theorem holdsDigits_of_number? {accident : Accident} {rest : List Char}
    (refused : number? chars = some (.error accident, rest)) :
    ∃ digits, HoldsDigits chars digits ∧ Number.digitLimit < digits.length ∧
      accident = .longNumeral digits.length := by
  unfold number? at refused
  split at refused
  · split at refused
    · cases (Prod.mk.inj (Option.some.inj refused)).1
    · exact holdsDigits_of_decimal? refused
  · exact holdsDigits_of_decimal? refused

/-- A special number leaves an end of the text. -/
theorem leaves_specialNumber? (chars : List Char) :
    Leaves chars Prod.snd (specialNumber? chars) := by
  have three : chars.drop 3 <:+ chars := List.drop_suffix 3 chars
  have four : chars.drop 4 <:+ chars := List.drop_suffix 4 chars
  -- Words of three letters, with a sign or without.
  unfold specialNumber?
  dsimp only
  split_ifs
  · exact .some three
  · exact .some three
  · exact .some four
  · exact .some four
  · exact .some four
  · exact .none

/-! ## Dates and times -/

/-- Two digits leave an end of the text. -/
theorem leaves_twoDigits? (least greatest : Nat) (chars : List Char) :
    Leaves chars Prod.snd (twoDigits? least greatest chars) := by
  unfold twoDigits?
  split
  · rename_i first second rest
    dsimp only
    split
    · exact .some ⟨[first, second], rfl⟩
    · exact .none
  · exact .none

/-- What stands behind a character is an end of the text. -/
theorem leaves_behind? (c : Char) (chars : List Char) : Leaves chars id (behind? c chars) := by
  cases chars with
  | nil => exact .none
  | cons first rest =>
    have within : id rest <:+ first :: rest := List.suffix_cons first rest
    have steps : behind? c (first :: rest) = if first = c then some rest else none := rfl
    rw [steps]
    split
    · exact .some within
    · exact .none

/-- A fraction of a second leaves an end of the text. -/
theorem microseconds_suffix (chars : List Char) : (microseconds chars).2 <:+ chars := by
  unfold microseconds
  split
  · dsimp only
    split
    · exact List.suffix_refl _
    · exact (List.dropWhile_suffix _).trans (List.suffix_cons _ _)
  · exact List.suffix_refl _

/-- A time of day leaves an end of the text. -/
theorem leaves_time? (chars : List Char) : Leaves chars Prod.snd (time? chars) := by
  unfold time?
  refine (leaves_twoDigits? 0 23 chars).bind fun hour one => ?_
  refine ((leaves_behind? ':' _).trans one).bind fun _ two => ?_
  refine ((leaves_twoDigits? 0 59 _).trans two).bind fun minute three => ?_
  refine ((leaves_behind? ':' _).trans three).bind fun _ four => ?_
  refine ((leaves_twoDigits? 0 59 _).trans four).bind fun second five => ?_
  exact .some ((microseconds_suffix _).trans five)

/-- An offset leaves an end of the text. -/
theorem offset_suffix (chars : List Char) : (offset chars).2 <:+ chars := by
  unfold offset
  split
  · exact List.suffix_cons _ _
  · exact List.suffix_cons _ _
  · rename_i sign rest _ _
    dsimp only
    split
    · rename_i size behind same
      -- Hours, a colon and minutes, each behind the one before.
      have within : (size, behind).2 <:+ sign :: rest := by
        refine Leaves.bind ((leaves_twoDigits? 0 23 rest).trans (List.suffix_cons sign rest))
          (fun hours one => ?_) _ same
        refine ((leaves_behind? ':' _).trans one).bind fun _ two => ?_
        exact ((leaves_twoDigits? 0 59 _).trans two).bind fun minutes three => .some three
      split
      · exact within
      · split
        · exact within
        · exact List.suffix_refl _
    · exact List.suffix_refl _
  · exact List.suffix_refl _

/-- A year leaves an end of the text. -/
theorem leaves_year? (chars : List Char) : Leaves chars Prod.snd (year? chars) := by
  unfold year?
  dsimp only
  split
  · exact .some (List.drop_suffix 4 chars)
  · exact .none

/-- A date leaves an end of the text, and so does a moment. -/
theorem leaves_moment? (chars : List Char) : Leaves chars Prod.snd (moment? chars) := by
  unfold moment?
  refine (leaves_year? chars).bind fun year one => ?_
  refine ((leaves_behind? '-' _).trans one).bind fun _ two => ?_
  refine ((leaves_twoDigits? 1 12 _).trans two).bind fun month three => ?_
  refine ((leaves_behind? '-' _).trans three).bind fun _ four => ?_
  refine ((leaves_twoDigits? 1 31 _).trans four).bind fun day five => ?_
  -- Without a time of day behind it, the date ends here.
  dsimp only
  split
  · exact .some five
  · rename_i clock rest same
    have within : rest <:+ chars := by
      split at same
      · rename_i tail split
        split at same
        · have behind := (leaves_time? tail) _ same
          rw [split] at five
          exact behind.trans ((List.suffix_cons _ _).trans five)
        · cases same
      · cases same
    exact .some ((offset_suffix rest).trans within)

end AppSync.Toml
