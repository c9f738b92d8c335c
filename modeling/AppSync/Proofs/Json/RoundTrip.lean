import AppSync.Json.Printer
import AppSync.Proofs.Json.Quoted
import AppSync.Proofs.Text.Decimal
import Mathlib.Data.List.Induction
import Mathlib.Data.List.TakeWhile

/-! The indented text of a value consists of printable ASCII on lines, and reads as the value. -/

namespace AppSync.Json

/-- A printable character of ASCII or a line break. -/
def IsShown (c : Char) : Prop :=
  c = '\n' ∨ (' ' ≤ c ∧ c ≤ '~')

/-- Whether a character is shown can be decided. -/
instance : DecidablePred IsShown :=
  fun c => inferInstanceAs (Decidable (c = '\n' ∨ (' ' ≤ c ∧ c ≤ '~')))

/-- Characters are shown if the check of each of them says so. -/
theorem shown_of_all {chars : List Char} (all : (chars.all fun c => IsShown c) = true) :
    ∀ c ∈ chars, IsShown c := by
  simpa using all

/-- Values without fractions and halves of characters, in which no object repeats a name. -/
inductive Plain : Json → Prop where
  | null : Plain .null
  | bool (value : Bool) : Plain (.bool value)
  | int (value : Int) : Plain (.int value)
  | text {value : String} (whole : Text.hasHalves value = false) : Plain (.text value)
  | array {items : List Json} (each : ∀ item ∈ items, Plain item) : Plain (.array items)
  | object {members : List (String × Json)} (distinct : (members.map Prod.fst).Nodup)
    (names : ∀ member ∈ members, Text.hasHalves member.1 = false)
    (each : ∀ member ∈ members, Plain member.2) : Plain (.object members)

/-- A line break and the indentation of the next line. -/
structure IsBreak (gap : List Char) : Prop where
  starts : gap.head? = some '\n'
  blank : ∀ c ∈ gap, c = '\n' ∨ c = ' '

/-- What follows a value: nothing, a comma or a line break. -/
def Ended (rest : List Char) : Prop :=
  ∀ c ∈ rest.head?, c = ',' ∨ c = '\n'

/-- A text that is shown and read as a value, with enough fuel for its length. -/
structure Spells (text : List Char) (value : Json) : Prop where
  opens : ∃ c others, text = c :: others ∧ isGap c = false ∧ c ≠ ']'
  reads : ∀ {fuel : Nat} {rest : List Char}, text.length ≤ fuel → Ended rest →
    readValue fuel (text ++ rest) = some (value, rest)
  shown : ∀ c ∈ text, IsShown c

/-- A text that is shown and read as items up to a closing bracket. -/
structure SpellsItems (text : List Char) (items : List Json) : Prop where
  opens : ∃ gap c others, text = gap ++ c :: others ∧ IsBreak gap ∧ isGap c = false ∧ c ≠ ']'
  reads : ∀ {fuel : Nat} {rest : List Char}, text.length ≤ fuel →
    readItems fuel (text ++ rest) = some (items, rest)
  shown : ∀ c ∈ text, IsShown c

/-- A text that is shown and read as members up to a closing brace. -/
structure SpellsMembers (text : List Char) (members : List (String × Json)) : Prop where
  opens : ∃ gap others, text = gap ++ '"' :: others ∧ IsBreak gap
  reads : ∀ {fuel : Nat} {rest : List Char}, text.length ≤ fuel →
    readMembers fuel (text ++ rest) = some (members, rest)
  shown : ∀ c ∈ text, IsShown c

section gaps

variable {gap : List Char}

/-- A new line is a line break with its indentation. -/
theorem isBreak_newline (depth : Nat) : IsBreak (newline depth).toList := by
  have chars : (newline depth).toList = '\n' :: List.replicate (2 * depth) ' ' := by
    simp [newline]
  rw [chars]
  refine ⟨rfl, fun c member => ?_⟩
  rcases List.mem_cons.mp member with first | later
  · exact .inl first
  · exact .inr (List.eq_of_mem_replicate later)

/-- Line breaks are shown. -/
theorem IsBreak.shown (isBreak : IsBreak gap) : ∀ c ∈ gap, IsShown c := by
  intro c member
  rcases isBreak.blank c member with rfl | rfl
  · exact .inl rfl
  · exact .inr (by decide)

/-- Line breaks before a closing mark that is shown are shown with it. -/
theorem IsBreak.shown_closed {mark : Char} (isBreak : IsBreak gap) (closing : IsShown mark) :
    ∀ c ∈ gap ++ [mark], IsShown c := by
  intro c member
  rcases List.mem_append.mp member with inside | last
  · exact isBreak.shown c inside
  · rw [List.mem_singleton.mp last]
    exact closing

/-- Line breaks are skipped. -/
theorem IsBreak.skip (isBreak : IsBreak gap) (rest : List Char) :
    skipGaps (gap ++ rest) = skipGaps rest := by
  -- All characters of a break are gaps.
  have all : ∀ c ∈ gap, isGap c = true := by
    intro c member
    rcases isBreak.blank c member with rfl | rfl <;> rfl
  unfold skipGaps
  rw [List.dropWhile_append_of_pos all]

/-- A line break ends a value. -/
theorem IsBreak.ended (isBreak : IsBreak gap) (rest : List Char) : Ended (gap ++ rest) := by
  intro c first
  rw [List.head?_append, isBreak.starts] at first
  exact .inr (Option.some.inj first).symm

/-- Nothing is skipped before a character that is no gap. -/
theorem skipGaps_cons {c : Char} (solid : isGap c = false) (rest : List Char) :
    skipGaps (c :: rest) = c :: rest := by
  simp [skipGaps, solid]

/-- Gaps are skipped once. -/
theorem skipGaps_skipGaps (chars : List Char) : skipGaps (skipGaps chars) = skipGaps chars := by
  unfold skipGaps
  induction chars with
  | nil => rfl
  | cons c chars ih =>
    by_cases skipped : isGap c = true
    · simp [skipped, ih]
    · simp [skipped]

/-- Gaps before items are skipped by the items themselves. -/
theorem readItems_skipGaps (fuel : Nat) (chars : List Char) :
    readItems fuel (skipGaps chars) = readItems fuel chars := by
  cases fuel with
  | zero => rfl
  | succ fuel =>
    unfold readItems
    rw [skipGaps_skipGaps]

/-- Gaps before members are skipped by the members themselves. -/
theorem readMembers_skipGaps (fuel : Nat) (chars : List Char) :
    readMembers fuel (skipGaps chars) = readMembers fuel chars := by
  cases fuel with
  | zero => rfl
  | succ fuel =>
    unfold readMembers
    rw [skipGaps_skipGaps]

end gaps

section literals

/-- The digits of a unit are shown. -/
theorem shown_unitEscape (unit : Nat) : ∀ c ∈ unitEscape unit, IsShown c := by
  have digit (value : Nat) : IsShown (Text.hexDigit (value % 16)) := by
    have each : ∀ digit < 16, ' ' ≤ Text.hexDigit digit ∧ Text.hexDigit digit ≤ '~' := by decide
    exact .inr (each _ (Nat.mod_lt value (by decide)))
  intro c member
  simp only [unitEscape, Text.hexFixed, List.nil_append, List.cons_append, List.mem_cons,
    List.not_mem_nil, or_false] at member
  rcases member with rfl | rfl | rfl | rfl | rfl | rfl
  · exact .inr (by decide)
  · exact .inr (by decide)
  all_goals exact digit _

/-- What a character is written as in a literal is shown. -/
theorem shown_escapeAscii (c : Char) : ∀ d ∈ escapeAscii c, IsShown d := by
  intro d member
  unfold escapeAscii at member
  cases escaped : shortEscape? c with
  | some short =>
    -- The letters of short escapes are listed.
    rw [escaped] at member
    unfold shortEscape? at escaped
    have letter : IsShown short := by
      split_ifs at escaped <;> (cases escaped; exact .inr (by decide))
    rcases List.mem_cons.mp member with rfl | last
    · exact .inr (by decide)
    · rw [List.mem_singleton.mp last]
      exact letter
  | none =>
    rw [escaped] at member
    dsimp only at member
    split at member
    · rename_i printable
      rw [List.mem_singleton.mp member]
      exact .inr printable
    · obtain ⟨unit, _, inside⟩ := List.mem_flatMap.mp member
      exact shown_unitEscape unit d inside

/-- The characters of a literal of printable ASCII. -/
theorem toList_quote (text : String) :
    (quote text).toList = '"' :: (text.toList.flatMap escapeAscii ++ ['"']) := by
  simp [quote]

/-- A literal is shown. -/
theorem shown_quote (text : String) : ∀ c ∈ (quote text).toList, IsShown c := by
  have mark : IsShown '"' := .inr (by decide)
  intro c member
  rw [toList_quote] at member
  rcases List.mem_cons.mp member with rfl | inside
  · exact mark
  rcases List.mem_append.mp inside with inside | last
  · obtain ⟨d, _, part⟩ := List.mem_flatMap.mp inside
    exact shown_escapeAscii d c part
  · rw [List.mem_singleton.mp last]
    exact mark

/-- A literal without halves of characters is read as its text. -/
theorem readQuoted_quote {text : String} (whole : Text.hasHalves text = false)
    (rest : List Char) :
    readQuoted (text.toList.flatMap escapeAscii ++ '"' :: rest) = some (text.toList, rest) :=
  readQuoted_flatMap (fun c member => readQuoted_escapeAscii
    (Text.carriesHalf_of_hasHalves whole c member)) rest

/-- The sign of an integer is read off its text, and its digits are left. -/
theorem readSign_toString (value : Int) (rest : List Char) :
    readSign (· == '-') ((toString value).toList ++ rest) =
      (if value < 0 then some '-' else none, Nat.toDigits 10 value.natAbs ++ rest) := by
  have digits : ∀ c ∈ Nat.toDigits 10 value.natAbs, c.isDigit = true := fun c member =>
    Nat.isDigit_of_mem_toDigits (by decide) (by decide) member
  rw [Text.toList_toString_int]
  -- A minus is told from the first digit.
  obtain ⟨c, others, same⟩ := List.exists_cons_of_ne_nil (@Nat.toDigits_ne_nil value.natAbs 10)
  rw [same] at digits ⊢
  have unsigned : c ≠ '-' := by
    rintro rfl
    exact absurd (digits '-' List.mem_cons_self) (by decide)
  split
  · rfl
  · simp [readSign, unsigned]

/-- The digits of an integer are read as the integer, up to the end of a value. -/
theorem readNumber_toString (value : Int) {rest : List Char} (ended : Ended rest) :
    readNumber ((toString value).toList ++ rest) = some (.int value, rest) := by
  have signed := readSign_toString value rest
  have digits : ∀ c ∈ Nat.toDigits 10 value.natAbs, c.isDigit = true := fun c member =>
    Nat.isDigit_of_mem_toDigits (by decide) (by decide) member
  have spelled := Text.decimalNumber_toDigits value.natAbs
  have some_digit : Nat.toDigits 10 value.natAbs ≠ [] := Nat.toDigits_ne_nil
  have led : ¬((Nat.toDigits 10 value.natAbs).length ≠ 1 ∧
      (Nat.toDigits 10 value.natAbs).head? = some '0') := by
    rintro ⟨several, zero⟩
    rw [Text.eq_zero_of_head?_toDigits zero] at several
    exact several rfl
  generalize Nat.toDigits 10 value.natAbs = size at signed digits spelled some_digit led
  -- The digits are split off from what follows them.
  have stops : ∀ c ∈ rest.head?, c.isDigit = false := by
    intro c first
    rcases ended c first with rfl | rfl <;> rfl
  obtain ⟨taken, dropped⟩ := Text.takeWhile_append_of_stops size stops
  rw [List.takeWhile_eq_self_iff.mpr digits] at taken
  rw [List.dropWhile_eq_nil_iff.mpr digits, List.nil_append] at dropped
  unfold readNumber
  rw [signed]
  dsimp only
  rw [taken, dropped, if_neg (not_or.mpr ⟨some_digit, led⟩)]
  have whole : (if value < 0 then -(value.natAbs : Int) else value.natAbs) = value := by
    split <;> omega
  generalize value.natAbs = amount at spelled whole
  rw [spelled]
  -- Neither a comma nor a line break goes on with a number.
  cases rest with
  | nil => simp [whole]
  | cons c others =>
    rcases ended c rfl with rfl | rfl
    · simp [whole]
    · simp [whole]

end literals

/-- A number is read where a digit or a minus is. -/
theorem readValue_number {c : Char} (sent : c = '-' ∨ c.isDigit = true) (fuel : Nat)
    (rest : List Char) : readValue (fuel + 1) (c :: rest) = readNumber (c :: rest) := by
  -- No other value begins with such a character.
  have apart : ∀ d ∈ ['n', 't', 'f', '"', '[', '\x7b'], c ≠ d := by
    rintro d member rfl
    simp only [List.mem_cons, List.not_mem_nil, or_false] at member
    rcases member with rfl | rfl | rfl | rfl | rfl | rfl <;> simp_all
  simp only [List.forall_mem_cons] at apart
  unfold readValue
  split <;> simp_all

/-- A new name is put behind the members. -/
theorem setMember_eq_append {α : Type} {name : String} (value : α)
    {members : List (String × α)} (fresh : name ∉ members.map Prod.fst) :
    setMember name value members = members ++ [(name, value)] := by
  induction members with
  | nil => rfl
  | cons member rest ih =>
    rw [List.map_cons, List.mem_cons, not_or] at fresh
    rw [setMember, if_neg (Ne.symm fresh.1), ih fresh.2]
    rfl

/-- Members without repeated names are collected as they are. -/
theorem collectMembers_eq {α : Type} {members : List (String × α)}
    (distinct : (members.map Prod.fst).Nodup) : collectMembers members = members := by
  -- Each member is put behind those before it.
  induction members using List.reverseRecOn with
  | nil => rfl
  | append_singleton members member ih =>
    rw [List.map_append, List.map_singleton, List.nodup_append] at distinct
    obtain ⟨before, _, apart⟩ := distinct
    have fresh : member.1 ∉ members.map Prod.fst := fun inside =>
      apart member.1 inside member.1 List.mem_cons_self rfl
    have collected := ih before
    unfold collectMembers at collected ⊢
    rw [List.foldl_append, collected]
    exact setMember_eq_append member.2 fresh

section spelling

variable {chars gap after : List Char}

/-- A text that is no gap spells a value if some fuel reads it. -/
theorem Spells.of_succ {c : Char} {value : Json} (solid : isGap c = false) (apart : c ≠ ']')
    (reads : ∀ fuel rest, (c :: chars).length ≤ fuel + 1 → Ended rest →
      readValue (fuel + 1) (c :: chars ++ rest) = some (value, rest))
    (shown : ∀ d ∈ c :: chars, IsShown d) : Spells (c :: chars) value := by
  refine ⟨⟨c, chars, rfl, solid, apart⟩, ?_, shown⟩
  intro fuel rest room ended
  cases fuel with
  | zero => cases room
  | succ fuel => exact reads fuel rest room ended

/-- The word for null spells it. -/
theorem Spells.null : Spells "null".toList .null :=
  .of_succ (by decide) (by decide) (fun _ _ _ _ => rfl) (shown_of_all rfl)

/-- The words for truth values spell them. -/
theorem Spells.bool (value : Bool) :
    Spells (if value then "true" else "false").toList (.bool value) := by
  cases value with
  | false => exact .of_succ (by decide) (by decide) (fun _ _ _ _ => rfl) (shown_of_all rfl)
  | true => exact .of_succ (by decide) (by decide) (fun _ _ _ _ => rfl) (shown_of_all rfl)

/-- An integer is spelled by its digits. -/
theorem Spells.int (value : Int) : Spells (toString value).toList (.int value) := by
  -- The text begins with a minus or a digit, and goes on with digits.
  have each : ∀ c ∈ (toString value).toList, c = '-' ∨ c.isDigit = true := by
    intro c member
    rw [Text.toList_toString_int] at member
    rcases List.mem_append.mp member with sign | digit
    · split at sign
      · exact .inl (List.mem_singleton.mp sign)
      · cases sign
    · exact .inr (Nat.isDigit_of_mem_toDigits (by decide) (by decide) digit)
  have some_char : (toString value).toList ≠ [] := by
    rw [Text.toList_toString_int]
    simp [Nat.toDigits_ne_nil]
  have shown : ∀ c ∈ (toString value).toList, IsShown c := by
    intro c member
    rcases each c member with rfl | digit
    · decide
    · have bounds := Text.bounds_of_isDigit digit
      have low : ' '.toNat ≤ c.toNat := Nat.le_trans (by decide) bounds.1
      have high : c.toNat ≤ '~'.toNat := Nat.le_trans bounds.2 (by decide)
      exact .inr ⟨low, high⟩
  obtain ⟨c, others, written⟩ := List.exists_cons_of_ne_nil some_char
  rw [written] at each shown ⊢
  have sent := each c List.mem_cons_self
  have solid : isGap c = false ∧ c ≠ ']' := by
    rcases sent with rfl | digit
    · decide
    · constructor
      · by_contra gap
        simp only [isGap, Bool.or_eq_true, beq_iff_eq, Bool.not_eq_false] at gap
        rcases gap with ((rfl | rfl) | rfl) | rfl <;> exact absurd digit (by decide)
      · rintro rfl
        exact absurd digit (by decide)
  refine .of_succ solid.1 solid.2 (fun fuel rest _ ended => ?_) shown
  rw [List.cons_append, readValue_number sent, ← List.cons_append, ← written]
  exact readNumber_toString value ended

/-- A text is spelled by its literal. -/
theorem Spells.text {value : String} (whole : Text.hasHalves value = false) :
    Spells (quote value).toList (.text value) := by
  have shown := shown_quote value
  rw [toList_quote] at shown ⊢
  refine .of_succ (by decide) (by decide) (fun fuel rest _ _ => ?_) shown
  rw [List.cons_append, List.append_assoc, List.singleton_append]
  unfold readValue
  simp [readQuoted_quote whole]

/-- An array without items is spelled by its brackets. -/
theorem Spells.emptyArray : Spells "[]".toList (.array []) :=
  .of_succ (by decide) (by decide) (fun _ _ _ _ => rfl) (shown_of_all rfl)

/-- An object without members is spelled by its braces. -/
theorem Spells.emptyObject : Spells "\x7b\x7d".toList (.object []) :=
  .of_succ (by decide) (by decide) (fun _ _ _ _ => rfl) (shown_of_all rfl)

/-- Items behind a bracket spell an array. -/
theorem Spells.array {items : List Json} (spelled : SpellsItems chars items) :
    Spells ('[' :: chars) (.array items) := by
  have bracket : IsShown '[' := by decide
  refine .of_succ (by decide) (by decide) (fun fuel rest room _ => ?_)
    (List.forall_mem_cons.mpr ⟨bracket, spelled.shown⟩)
  have read : readItems fuel (chars ++ rest) = some (items, rest) :=
    spelled.reads (Nat.succ_le_succ_iff.mp room)
  -- The first item is no closing bracket.
  obtain ⟨gap, c, others, same, isBreak, solid, apart⟩ := spelled.opens
  have skipped : skipGaps (chars ++ rest) = c :: (others ++ rest) := by
    rw [same, List.append_assoc, isBreak.skip, List.cons_append, skipGaps_cons solid]
  rw [← readItems_skipGaps, skipped] at read
  rw [List.cons_append]
  unfold readValue
  simp only [skipped]
  split
  · rename_i closing
    exact absurd (List.cons.inj closing).1 apart
  · rw [read]
    rfl

/-- Members behind a brace spell an object if no name is repeated. -/
theorem Spells.object {members : List (String × Json)} (spelled : SpellsMembers chars members)
    (distinct : (members.map Prod.fst).Nodup) : Spells ('\x7b' :: chars) (.object members) := by
  have brace : IsShown '\x7b' := by decide
  refine .of_succ (by decide) (by decide) (fun fuel rest room _ => ?_)
    (List.forall_mem_cons.mpr ⟨brace, spelled.shown⟩)
  have read : readMembers fuel (chars ++ rest) = some (members, rest) :=
    spelled.reads (Nat.succ_le_succ_iff.mp room)
  -- The first name is no closing brace.
  obtain ⟨gap, others, same, isBreak⟩ := spelled.opens
  have skipped : skipGaps (chars ++ rest) = '"' :: (others ++ rest) := by
    rw [same, List.append_assoc, isBreak.skip, List.cons_append, skipGaps_cons (by decide)]
  rw [← readMembers_skipGaps, skipped] at read
  rw [List.cons_append]
  unfold readValue
  simp only [skipped]
  change (readMembers fuel _).map _ = _
  rw [read, Option.map_some, collectMembers_eq distinct]

/-- A value is what is left when the line break before it is skipped. -/
theorem Spells.skip {value : Json} (spelled : Spells chars value) (before : IsBreak gap)
    (rest : List Char) : skipGaps (gap ++ (chars ++ rest)) = chars ++ rest := by
  obtain ⟨c, others, same, solid, _⟩ := spelled.opens
  rw [before.skip, same, List.cons_append, skipGaps_cons solid]

/-- The characters of a value between two shown texts are shown with them. -/
theorem Spells.shown_between {value : Json} (spelled : Spells chars value) {front back : List Char}
    (first : ∀ c ∈ front, IsShown c) (last : ∀ c ∈ back, IsShown c) :
    ∀ c ∈ front ++ (chars ++ back), IsShown c := by
  intro c member
  rcases List.mem_append.mp member with inside | member
  · exact first c inside
  rcases List.mem_append.mp member with inside | inside
  · exact spelled.shown c inside
  · exact last c inside

/-- What is read behind a value of an array: other items, or the closing bracket. -/
def itemsBehind (fuel : Nat) (value : Json) : List Char → Option (List Json × List Char)
  | ',' :: rest => (readItems fuel rest).map fun found => (value :: found.1, found.2)
  | ']' :: rest => some ([value], rest)
  | _ => none

/-- Items go on behind a value that is read. -/
theorem readItems_item {value : Json} (before : IsBreak gap) (spelled : Spells chars value)
    {fuel : Nat} (room : chars.length ≤ fuel) {rest : List Char} (ended : Ended rest) :
    readItems (fuel + 1) (gap ++ (chars ++ rest)) = itemsBehind fuel value (skipGaps rest) := by
  rw [readItems, spelled.skip before, spelled.reads room ended]
  rfl

/-- A value on the last line before a closing bracket spells an item. -/
theorem SpellsItems.last {value : Json} (before : IsBreak gap) (spelled : Spells chars value)
    (behind : IsBreak after) : SpellsItems (gap ++ (chars ++ (after ++ [']']))) [value] := by
  have bracket : IsShown ']' := by decide
  constructor
  · obtain ⟨c, others, same, solid, apart⟩ := spelled.opens
    exact ⟨gap, c, others ++ (after ++ [']']), by rw [same]; rfl, before, solid, apart⟩
  · intro fuel rest room
    simp only [List.length_append, List.length_singleton] at room
    obtain ⟨fuel, rfl⟩ : ∃ less, fuel = less + 1 := Nat.exists_eq_add_one.mpr (by omega)
    -- Behind the line break the bracket closes.
    have closing : skipGaps (after ++ ']' :: rest) = ']' :: rest := by
      rw [behind.skip, skipGaps_cons (by decide)]
    simp only [List.append_assoc, List.singleton_append]
    rw [readItems_item before spelled (by omega) (behind.ended _), closing]
    rfl
  · exact spelled.shown_between before.shown (behind.shown_closed bracket)

/-- A value before a comma and other items spells the first of them. -/
theorem SpellsItems.cons {more : List Char} {value : Json} {items : List Json}
    (before : IsBreak gap) (spelled : Spells chars value) (others : SpellsItems more items) :
    SpellsItems (gap ++ (chars ++ ',' :: more)) (value :: items) := by
  have comma : IsShown ',' := by decide
  constructor
  · obtain ⟨c, rest, same, solid, apart⟩ := spelled.opens
    exact ⟨gap, c, rest ++ ',' :: more, by rw [same]; rfl, before, solid, apart⟩
  · intro fuel rest room
    simp only [List.length_append, List.length_cons] at room
    obtain ⟨fuel, rfl⟩ : ∃ less, fuel = less + 1 := Nat.exists_eq_add_one.mpr (by omega)
    -- Behind the comma the others are read.
    have ended : Ended (',' :: (more ++ rest)) := fun c first => .inl (Option.some.inj first).symm
    have below : readItems fuel (more ++ rest) = some (items, rest) := others.reads (by omega)
    simp only [List.append_assoc, List.cons_append]
    rw [readItems_item before spelled (by omega) ended, skipGaps_cons (by decide)]
    change (readItems fuel _).map _ = _
    rw [below]
    rfl
  · exact spelled.shown_between before.shown (List.forall_mem_cons.mpr ⟨comma, others.shown⟩)

/-- A name in quotes before a colon and a blank. -/
def named (name : String) : List Char :=
  (quote name).toList ++ [':', ' ']

/-- A name before a colon is shown, and so is a line break before it. -/
theorem shown_named (before : IsBreak gap) (name : String) :
    ∀ c ∈ gap ++ named name, IsShown c := by
  have colon : ∀ c ∈ [':', ' '], IsShown c := shown_of_all rfl
  intro c member
  rcases List.mem_append.mp member with inside | member
  · exact before.shown c inside
  rcases List.mem_append.mp member with inside | inside
  · exact shown_quote name c inside
  · exact colon c inside

/-- A name begins with its opening quote. -/
theorem exists_named (before : IsBreak gap) (name : String) (rest : List Char) :
    ∃ front others, gap ++ (named name ++ rest) = front ++ '"' :: others ∧ IsBreak front := by
  refine ⟨gap, name.toList.flatMap escapeAscii ++ '"' :: ':' :: ' ' :: rest, ?_, before⟩
  simp [named, toList_quote]

/-- What is read behind a member of an object: other members, or the closing brace. -/
def membersBehind (fuel : Nat) (member : String × Json) :
    List Char → Option (List (String × Json) × List Char)
  | ',' :: rest => (readMembers fuel rest).map fun found => (member :: found.1, found.2)
  | '\x7d' :: rest => some ([member], rest)
  | _ => none

/-- Members go on behind a name with its value. -/
theorem readMembers_member {name : String} {value : Json} (before : IsBreak gap)
    (whole : Text.hasHalves name = false) (spelled : Spells chars value) {fuel : Nat}
    (room : chars.length ≤ fuel) {rest : List Char} (ended : Ended rest) :
    readMembers (fuel + 1) (gap ++ (named name ++ (chars ++ rest))) =
      membersBehind fuel (name, value) (skipGaps rest) := by
  -- The name is read up to its closing quote, and its value behind the colon.
  have opened : skipGaps (gap ++ (named name ++ (chars ++ rest))) =
      '"' :: (name.toList.flatMap escapeAscii ++ '"' :: ':' :: ([' '] ++ (chars ++ rest))) := by
    rw [before.skip, named, toList_quote]
    simp only [List.cons_append, List.append_assoc, List.nil_append]
    rw [skipGaps_cons (by decide)]
  have colon : skipGaps (':' :: ([' '] ++ (chars ++ rest))) = ':' :: ([' '] ++ (chars ++ rest)) :=
    skipGaps_cons (by decide) _
  have behind : skipGaps ([' '] ++ (chars ++ rest)) = chars ++ rest := by
    obtain ⟨c, others, same, solid, _⟩ := spelled.opens
    rw [List.singleton_append, skipGaps, List.dropWhile_cons_of_pos rfl, ← skipGaps, same,
      List.cons_append, skipGaps_cons solid]
  simp only [readMembers, opened, readQuoted_quote whole, colon, behind,
    spelled.reads room ended, String.ofList_toList]
  -- What is left is the case analysis on what follows the value.
  rfl

/-- A name with its value on the last line before a closing brace spells a member. -/
theorem SpellsMembers.last {name : String} {value : Json} (before : IsBreak gap)
    (whole : Text.hasHalves name = false) (spelled : Spells chars value) (behind : IsBreak after) :
    SpellsMembers (gap ++ (named name ++ (chars ++ (after ++ ['\x7d'])))) [(name, value)] := by
  have brace : IsShown '\x7d' := by decide
  constructor
  · exact exists_named before name _
  · intro fuel rest room
    simp only [List.length_append, List.length_singleton] at room
    obtain ⟨fuel, rfl⟩ : ∃ less, fuel = less + 1 := Nat.exists_eq_add_one.mpr (by omega)
    -- Behind the line break the brace closes.
    have closing : skipGaps (after ++ '\x7d' :: rest) = '\x7d' :: rest := by
      rw [behind.skip, skipGaps_cons (by decide)]
    simp only [List.append_assoc, List.singleton_append]
    rw [readMembers_member before whole spelled (by omega) (behind.ended _), closing]
    rfl
  · rw [← List.append_assoc]
    exact spelled.shown_between (shown_named before name) (behind.shown_closed brace)

/-- A name with its value before a comma and other members spells the first of them. -/
theorem SpellsMembers.cons {more : List Char} {name : String} {value : Json}
    {members : List (String × Json)} (before : IsBreak gap) (whole : Text.hasHalves name = false)
    (spelled : Spells chars value) (others : SpellsMembers more members) :
    SpellsMembers (gap ++ (named name ++ (chars ++ ',' :: more))) ((name, value) :: members) := by
  have comma : IsShown ',' := by decide
  constructor
  · exact exists_named before name _
  · intro fuel rest room
    simp only [List.length_append, List.length_cons] at room
    obtain ⟨fuel, rfl⟩ : ∃ less, fuel = less + 1 := Nat.exists_eq_add_one.mpr (by omega)
    -- Behind the comma the others are read.
    have ended : Ended (',' :: (more ++ rest)) := fun c first => .inl (Option.some.inj first).symm
    have below : readMembers fuel (more ++ rest) = some (members, rest) := others.reads (by omega)
    simp only [List.append_assoc, List.cons_append]
    rw [readMembers_member before whole spelled (by omega) ended, skipGaps_cons (by decide)]
    change (readMembers fuel _).map _ = _
    rw [below]
    rfl
  · rw [← List.append_assoc]
    exact spelled.shown_between (shown_named before name)
      (List.forall_mem_cons.mpr ⟨comma, others.shown⟩)

/-- The lines of items spell them if the text of each item spells it. -/
theorem spellsItems_indented {depth : Nat} {first : Json} {others : List Json}
    (each : ∀ item ∈ first :: others, Spells (indented depth item).toList item)
    (behind : IsBreak after) :
    SpellsItems ((newline depth).toList ++ ((indented depth first).toList ++
      ((indented.indentedItems depth others).toList ++ (after ++ [']'])))) (first :: others) := by
  -- Behind the first item either the bracket closes or a comma goes on.
  have spelled := each first List.mem_cons_self
  induction others generalizing first with
  | nil => exact .last (isBreak_newline depth) spelled behind
  | cons second others ih =>
    have rest : ∀ item ∈ second :: others, Spells (indented depth item).toList item :=
      fun item member => each item (List.mem_cons_of_mem first member)
    have more := ih rest (rest second List.mem_cons_self)
    have written : (indented.indentedItems depth (second :: others)).toList ++ (after ++ [']']) =
        ',' :: ((newline depth).toList ++ ((indented depth second).toList ++
          ((indented.indentedItems depth others).toList ++ (after ++ [']'])))) := by
      simp [indented.indentedItems]
    rw [written]
    exact .cons (isBreak_newline depth) spelled more

/-- The lines of members spell them if the text of each value spells it. -/
theorem spellsMembers_indented {depth : Nat} {name : String} {first : Json}
    {others : List (String × Json)}
    (names : ∀ member ∈ (name, first) :: others, Text.hasHalves member.1 = false)
    (each : ∀ member ∈ (name, first) :: others, Spells (indented depth member.2).toList member.2)
    (behind : IsBreak after) :
    SpellsMembers ((newline depth).toList ++ (named name ++ ((indented depth first).toList ++
      ((indented.indentedMembers depth others).toList ++ (after ++ ['\x7d'])))))
      ((name, first) :: others) := by
  -- Behind the first member either the brace closes or a comma goes on.
  have whole := names (name, first) List.mem_cons_self
  have spelled := each (name, first) List.mem_cons_self
  induction others generalizing name first with
  | nil => exact .last (isBreak_newline depth) whole spelled behind
  | cons second others ih =>
    have restNames : ∀ member ∈ second :: others, Text.hasHalves member.1 = false :=
      fun member inside => names member (List.mem_cons_of_mem _ inside)
    have rest : ∀ member ∈ second :: others, Spells (indented depth member.2).toList member.2 :=
      fun member inside => each member (List.mem_cons_of_mem _ inside)
    have more := ih restNames rest (restNames second List.mem_cons_self)
      (rest second List.mem_cons_self)
    have written :
        (indented.indentedMembers depth (second :: others)).toList ++ (after ++ ['\x7d']) =
          ',' :: ((newline depth).toList ++ (named second.1 ++
            ((indented depth second.2).toList ++
              ((indented.indentedMembers depth others).toList ++ (after ++ ['\x7d']))))) := by
      simp [indented.indentedMembers, named]
    rw [written]
    exact .cons (isBreak_newline depth) whole spelled more

end spelling

/-- The indented text of a plain value spells the value, at whatever depth it stands. -/
theorem Plain.spells {value : Json} (plain : Plain value) (depth : Nat) :
    Spells (indented depth value).toList value := by
  -- The parts of an array or an object stand one level deeper.
  induction plain generalizing depth with
  | null => exact .null
  | bool value => exact .bool value
  | int value => exact .int value
  | text whole => exact .text whole
  | @array items each ih =>
    cases items with
    | nil => exact .emptyArray
    | cons first others =>
      have written : (indented depth (.array (first :: others))).toList =
          '[' :: ((newline (depth + 1)).toList ++ ((indented (depth + 1) first).toList ++
            ((indented.indentedItems (depth + 1) others).toList ++
              ((newline depth).toList ++ [']'])))) := by
        simp [indented]
      rw [written]
      have inner : ∀ item ∈ first :: others, Spells (indented (depth + 1) item).toList item :=
        fun item member => ih item member (depth + 1)
      exact .array (spellsItems_indented inner (isBreak_newline depth))
  | @object members distinct names each ih =>
    cases members with
    | nil => exact .emptyObject
    | cons first others =>
      have written : (indented depth (.object (first :: others))).toList =
          '\x7b' :: ((newline (depth + 1)).toList ++ (named first.1 ++
            ((indented (depth + 1) first.2).toList ++
              ((indented.indentedMembers (depth + 1) others).toList ++
                ((newline depth).toList ++ ['\x7d']))))) := by
        simp [indented, named]
      rw [written]
      have inner : ∀ member ∈ first :: others,
          Spells (indented (depth + 1) member.2).toList member.2 :=
        fun member inside => ih member inside (depth + 1)
      exact .object (spellsMembers_indented names inner (isBreak_newline depth)) distinct

/-- A text that spells a value, with nothing around it, is read as the value. -/
theorem Spells.read? {text : String} {value : Json} (spelled : Spells text.toList value) :
    read? text = some value := by
  -- The length of the text is fuel enough, and nothing is left behind the value.
  have ended : Ended [] := fun c first => nomatch first
  have read : readValue (2 * text.toList.length + 2) (text.toList ++ []) = some (value, []) :=
    spelled.reads (by omega) ended
  obtain ⟨c, others, same, solid, _⟩ := spelled.opens
  rw [List.append_nil] at read
  unfold Json.read?
  rw [same] at read ⊢
  rw [skipGaps_cons solid]
  dsimp only
  rw [read]
  rfl

/-- The indented text of a plain value is read as the value, and shown on lines of ASCII. -/
theorem Plain.read?_indented {value : Json} (plain : Plain value) :
    read? (indented 0 value) = some value ∧ ∀ c ∈ (indented 0 value).toList, IsShown c :=
  ⟨(plain.spells 0).read?, (plain.spells 0).shown⟩

end AppSync.Json
