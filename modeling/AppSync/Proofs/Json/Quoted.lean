import AppSync.Json.Quoted
import AppSync.Json.Reader
import AppSync.Proofs.Text.Half
import AppSync.Proofs.Text.Hex
import Mathlib.Tactic.SplitIfs

/-! String literals read back as the text that they were written from. -/

namespace AppSync.Json

/-- The four digits of a unit spell it. -/
theorem unit?_hexFixed {unit : Nat} (small : unit < 65536) :
    ∃ a b c d, Text.hexFixed 4 unit = [a, b, c, d] ∧ unit? a b c d = some unit ∧
      a ≠ '\x7b' := by
  -- The width makes four digits of any number; the first of them is an ordinary digit.
  have read := Text.hexNumber?_hexFixed 4 unit
  have fits : unit % 16 ^ 4 = unit := Nat.mod_eq_of_lt small
  rw [fits] at read
  exact ⟨_, _, _, _, rfl, read, Text.hexDigit_ne_brace (Nat.mod_lt _ (by decide))⟩

/-- A short escape has the character as its meaning, and is not the letter of numbered escapes. -/
theorem shortMeaning?_shortEscape? {c short : Char} (escaped : shortEscape? c = some short) :
    shortMeaning? short = some c ∧ short ≠ 'u' := by
  -- The escapes are listed in one table and looked up in the other.
  unfold shortEscape? at escaped
  split_ifs at escaped with h₁ h₂ h₃ h₄ h₅ h₆ h₇ <;>
    (cases escaped; subst c; exact ⟨rfl, by decide⟩)

/-- A character without a short escape is neither a quote nor a backslash. -/
theorem ne_of_shortEscape?_eq_none {c : Char} (plain : shortEscape? c = none) :
    c ≠ '"' ∧ c ≠ '\\' := by
  constructor <;> rintro rfl <;> exact absurd plain (by decide)

/-- A numbered escape of a unit that is a character by itself is read as that character. -/
theorem readQuoted_unitEscape {unit : Nat} (small : unit < 65536)
    (whole : unit < 0xd800 ∨ 0xdfff < unit) (rest : List Char) :
    readQuoted (unitEscape unit ++ rest) =
      (readQuoted rest).map fun found => (Char.ofNat unit :: found.1, found.2) := by
  obtain ⟨a, b, c, d, digits, spelled, _⟩ := unit?_hexFixed small
  simp only [unitEscape, digits, List.cons_append, List.nil_append, readQuoted, spelled,
    if_pos whole]

/-- A character that is escaped only where it has to be is read as itself. -/
theorem readQuoted_escapeControl (c : Char) (rest : List Char) :
    readQuoted (escapeControl c ++ rest) =
      (readQuoted rest).map fun found => (c :: found.1, found.2) := by
  unfold escapeControl
  cases escaped : shortEscape? c with
  | some short =>
    obtain ⟨meant, notNumbered⟩ := shortMeaning?_shortEscape? escaped
    simp [readQuoted, meant, notNumbered]
  | none =>
    obtain ⟨_, notBackslash⟩ := ne_of_shortEscape?_eq_none escaped
    dsimp only
    split
    · -- A control character is written by its number.
      rename_i control
      have small : c.toNat < 32 := control
      rw [readQuoted_unitEscape (by omega) (by omega), Char.ofNat_toNat]
    · rename_i visible
      simp [readQuoted, notBackslash, visible]

/-- A character that carries no half is one unit, or two surrogates that number it together. -/
theorem units16_cases {c : Char} (whole : Text.carriesHalf c = false) :
    (c.toNat < 65536 ∧ units16 c = [c.toNat]) ∨
      ∃ high low, units16 c = [high, low] ∧ (0xd800 ≤ high ∧ high < 0xdc00) ∧
        (0xdc00 ≤ low ∧ low ≤ 0xdfff) ∧ Text.pairCode high low = c.toNat := by
  -- From U+10000 on a character has two units, with ten bits each.
  have valid : c.toNat < 0xd800 ∨ (0xdfff < c.toNat ∧ c.toNat < 0x110000) := c.valid
  unfold units16 Text.pairCode
  rw [Text.codeOf_eq whole]
  dsimp only
  split
  · rename_i small
    exact .inl ⟨small, rfl⟩
  · exact .inr ⟨_, _, rfl, by omega, by omega, by omega⟩

/-- The numbered escapes of two surrogates are read as the character that they number. -/
theorem readQuoted_surrogates {high low : Nat} (first : 0xd800 ≤ high ∧ high < 0xdc00)
    (second : 0xdc00 ≤ low ∧ low ≤ 0xdfff) (rest : List Char) :
    readQuoted (unitEscape high ++ (unitEscape low ++ rest)) =
      (readQuoted rest).map fun found =>
        (Char.ofNat (Text.pairCode high low) :: found.1, found.2) := by
  obtain ⟨a, b, c, d, digits, spelled, -⟩ := unit?_hexFixed (by omega : high < 65536)
  obtain ⟨e, f, g, h, lowDigits, lowSpelled, -⟩ := unit?_hexFixed (by omega : low < 65536)
  -- The first unit is no character by itself, so that the second escape is looked at.
  have half : ¬(high < 0xd800 ∨ 0xdfff < high) := by omega
  have paired : high < 0xdc00 ∧ 0xdc00 ≤ low ∧ low ≤ 0xdfff := ⟨first.2, second⟩
  simp only [unitEscape, digits, lowDigits, List.cons_append, List.nil_append, readQuoted, spelled,
    if_neg half, lowSpelled, if_pos paired]

/-- A character is read as itself where all but printable ASCII is escaped. -/
theorem readQuoted_escapeAscii {c : Char} (whole : Text.carriesHalf c = false)
    (rest : List Char) :
    readQuoted (escapeAscii c ++ rest) =
      (readQuoted rest).map fun found => (c :: found.1, found.2) := by
  have valid : c.toNat < 0xd800 ∨ (0xdfff < c.toNat ∧ c.toNat < 0x110000) := c.valid
  unfold escapeAscii
  -- There is a short escape, or the character is kept, or it is escaped by number.
  cases escaped : shortEscape? c with
  | some short =>
    obtain ⟨meant, unnumbered⟩ := shortMeaning?_shortEscape? escaped
    simp [readQuoted, meant, unnumbered]
  | none =>
    obtain ⟨_, notBackslash⟩ := ne_of_shortEscape?_eq_none escaped
    dsimp only
    split
    · rename_i printable
      have visible : ¬c < ' ' := Char.not_lt.mpr printable.1
      simp [readQuoted, notBackslash, visible]
    · rcases units16_cases whole with ⟨small, units⟩ | ⟨high, low, units, first, second, pair⟩
      · rw [units, List.flatMap_singleton, readQuoted_unitEscape small (by omega),
          Char.ofNat_toNat]
      · -- A character beyond the first plane is written as two surrogates.
        rw [units, List.flatMap_cons, List.flatMap_singleton, List.append_assoc,
          readQuoted_surrogates first second, pair, Char.ofNat_toNat]

/-- The body of a literal is read as its text, up to the closing quote, if each character is. -/
theorem readQuoted_flatMap {escape : Char → List Char} {text : List Char}
    (each : ∀ c ∈ text, ∀ rest, readQuoted (escape c ++ rest) =
      (readQuoted rest).map fun found => (c :: found.1, found.2)) (rest : List Char) :
    readQuoted (text.flatMap escape ++ '"' :: rest) = some (text, rest) := by
  -- Each character is read before those behind it.
  induction text with
  | nil => rfl
  | cons c text ih =>
    have others := ih fun d member => each d (List.mem_cons_of_mem c member)
    rw [List.flatMap_cons, List.append_assoc, each c List.mem_cons_self, others]
    rfl

/-- The body of a literal with control characters escaped is read as the text that was written. -/
theorem readQuoted_body (text rest : List Char) :
    readQuoted (text.flatMap escapeControl ++ '"' :: rest) = some (text, rest) :=
  readQuoted_flatMap (fun c _ => readQuoted_escapeControl c) rest

/-- The characters of a literal. -/
theorem toList_quoteUnicode (text : String) :
    (quoteUnicode text).toList = '"' :: (text.toList.flatMap escapeControl ++ ['"']) := by
  simp [quoteUnicode]

/-- Literals that begin equal texts are the same, and so is what follows them. -/
theorem quoteUnicode_prefix {text other : String} {rest more : List Char}
    (same : (quoteUnicode text).toList ++ rest = (quoteUnicode other).toList ++ more) :
    text = other ∧ rest = more := by
  -- Reading both texts gives back what was written and what is left.
  simp only [toList_quoteUnicode, List.cons_append, List.append_assoc, List.nil_append,
    List.cons.injEq, true_and] at same
  have read := congrArg readQuoted same
  rw [readQuoted_body, readQuoted_body] at read
  simpa [String.toList_inj] using read

end AppSync.Json
