import AppSync.Json.Quoted
import AppSync.Proofs.Json.Quoted
import AppSync.Proofs.Sdl.Scanning

/-! String literals of a schema document: a quoted text is read back as the text. -/

namespace AppSync.Sdl

/-- Characters are no surrogates and not too large. -/
theorem isScalarValue_toNat (c : Char) : isScalarValue c.toNat = true := by
  have valid : c.toNat < 0xd800 ∨ (0xdfff < c.toNat ∧ c.toNat < 0x110000) := c.valid
  simp only [isScalarValue, Bool.or_eq_true, Bool.and_eq_true, decide_eq_true_eq]
  omega

/-- The escape of a unit that is a character is read as that character. -/
theorem lexString_unitEscape {unit : Nat} (small : unit < 65536)
    (whole : isScalarValue unit = true) (rest : List Char) :
    lexString (Json.unitEscape unit ++ rest) = consChar (Char.ofNat unit) (lexString rest) := by
  -- The four digits are read as the unit again.
  obtain ⟨a, b, c, d, digits, spelled, unbraced⟩ := Json.unit?_hexFixed small
  simp only [Json.unitEscape, digits, List.cons_append, List.nil_append, lexString_numbered,
    lexNumbered.eq_2 a b c d rest unbraced, spelled, if_pos whole]

/-- The escapes of two surrogates are read as the character that they number. -/
theorem lexString_surrogates {high low : Nat} (first : 0xd800 ≤ high ∧ high < 0xdc00)
    (second : 0xdc00 ≤ low ∧ low ≤ 0xdfff) (rest : List Char) :
    lexString (Json.unitEscape high ++ (Json.unitEscape low ++ rest)) =
      consChar (Char.ofNat (Text.pairCode high low)) (lexString rest) := by
  obtain ⟨a, b, c, d, digits, spelled, unbraced⟩ := Json.unit?_hexFixed (by omega : high < 65536)
  obtain ⟨e, f, g, h, lowDigits, lowSpelled, -⟩ := Json.unit?_hexFixed (by omega : low < 65536)
  -- The first unit is no character by itself, so that the second escape is looked at.
  have half : ¬isScalarValue high = true := by
    simp only [isScalarValue, Bool.or_eq_true, Bool.and_eq_true, decide_eq_true_eq]
    omega
  have paired : high < 0xdc00 ∧ 0xdc00 ≤ low ∧ low ≤ 0xdfff := ⟨first.2, second⟩
  simp only [Json.unitEscape, digits, lowDigits, List.cons_append, List.nil_append,
    lexString_numbered, lexNumbered.eq_2 a b c d _ unbraced, spelled, if_neg half, lowSpelled,
    if_pos paired]

/-- An escaped character is read as itself. -/
theorem lexString_escapeAscii {c : Char} (whole : Text.carriesHalf c = false) (rest : List Char) :
    lexString (Json.escapeAscii c ++ rest) = consChar c (lexString rest) := by
  unfold Json.escapeAscii
  -- There is a short escape, or the character is kept, or it is escaped by number.
  cases escaped : Json.shortEscape? c with
  | some short =>
    obtain ⟨meant, unnumbered⟩ := Json.shortMeaning?_shortEscape? escaped
    exact lexString_short unnumbered meant rest
  | none =>
    obtain ⟨quote, escape⟩ := Json.ne_of_shortEscape?_eq_none escaped
    dsimp only
    split
    · -- Breaks have short escapes.
      have line : ¬(c = '\n' ∨ c = '\r') := by
        rintro (rfl | rfl) <;> cases escaped
      exact lexString_plain quote escape line whole rest
    · rcases Json.units16_cases whole with ⟨small, units⟩ | ⟨high, low, units, first, second, pair⟩
      · rw [units, List.flatMap_singleton, lexString_unitEscape small (isScalarValue_toNat c),
          Char.ofNat_toNat]
      · -- A character beyond the first plane is written as two surrogates.
        rw [units, List.flatMap_cons, List.flatMap_singleton, List.append_assoc,
          lexString_surrogates first second, pair, Char.ofNat_toNat]

/-- The body of a literal is read as the text that was written, up to the closing quote. -/
theorem lexString_body {text : List Char} (whole : ∀ c ∈ text, Text.carriesHalf c = false)
    (rest : List Char) :
    lexString (text.flatMap Json.escapeAscii ++ '"' :: rest) = .ok (text, rest) := by
  -- Each character is read before those behind it.
  induction text with
  | nil => exact lexString_quote rest
  | cons c text ih =>
    have read := ih fun d member => whole d (List.mem_cons_of_mem c member)
    rw [List.flatMap_cons, List.append_assoc, lexString_escapeAscii (whole c List.mem_cons_self),
      read]
    rfl

/-- An escaped character does not begin with a quote. -/
theorem exists_escapeAscii (c : Char) : ∃ d tail, Json.escapeAscii c = d :: tail ∧ d ≠ '"' := by
  -- An escape begins with its backslash, and a quote would not be kept.
  unfold Json.escapeAscii
  cases escaped : Json.shortEscape? c with
  | some short => exact ⟨_, _, rfl, by decide⟩
  | none =>
    dsimp only
    split
    · exact ⟨c, [], rfl, (Json.ne_of_shortEscape?_eq_none escaped).1⟩
    · unfold Json.units16
      dsimp only
      split <;> exact ⟨'\\', _, rfl, by decide⟩

/-- A quoted text is written for the text. -/
theorem Prints.quoted {text : String} (whole : Text.hasHalves text = false) :
    Prints (Json.quote text).toList [.string text] := by
  intro rest breaks
  have written : (Json.quote text).toList ++ rest =
      '"' :: (text.toList.flatMap Json.escapeAscii ++ '"' :: rest) := by
    simp [Json.quote]
  -- The literal does not begin as a block string: an empty one meets no third quote.
  have apart : ∀ tail,
      text.toList.flatMap Json.escapeAscii ++ '"' :: rest ≠ '"' :: '"' :: tail := by
    intro tail same
    cases letters : text.toList with
    | nil =>
      rw [letters] at same
      cases rest with
      | nil => simp at same
      | cons c others =>
        simp only [List.flatMap_nil, List.nil_append, List.cons.injEq] at same
        exact breaks.head.2.2.2 same.2.1
    | cons c others =>
      obtain ⟨d, escape, escaped, other⟩ := exists_escapeAscii c
      rw [letters, List.flatMap_cons, escaped] at same
      simp only [List.cons_append, List.cons.injEq] at same
      exact other same.1
  rw [written]
  refine .token (by simp) ?_ (.done rest)
  rw [lexToken.eq_3 _ apart, lexString_body (Text.carriesHalf_of_hasHalves whole)]
  simp [Except.map]

end AppSync.Sdl
