import AppSync.Proofs.Json.RoundTrip

/-! The indented text of every value, of fractions too, consists of printable ASCII on lines. -/

namespace AppSync

namespace Json

/-- A text of printable ASCII on lines. -/
def IsShownText (text : String) : Prop :=
  ∀ c ∈ text.toList, IsShown c

/-- Texts are shown one behind the other if each of them is. -/
@[simp]
theorem isShownText_append {first second : String} :
    IsShownText (first ++ second) ↔ IsShownText first ∧ IsShownText second := by
  simp only [IsShownText, String.toList_append, List.forall_mem_append]

/-- A text that is shown is ASCII. -/
theorem IsShownText.small {text : String} (shown : IsShownText text) :
    ∀ c ∈ text.toList, c.toNat < 0x80 := by
  intro c member
  rcases shown c member with rfl | ⟨-, bound⟩
  · decide
  · have last : c.toNat ≤ '~'.toNat := bound
    exact Nat.lt_of_le_of_lt last (by decide)

/-- Digits are shown. -/
theorem shown_toDigits (value : Nat) : ∀ c ∈ Nat.toDigits 10 value, IsShown c := by
  intro c member
  have bounds := Text.bounds_of_isDigit
    (Nat.isDigit_of_mem_toDigits (by decide) (by decide) member)
  have low : ' '.toNat ≤ c.toNat := Nat.le_trans (by decide) bounds.1
  have high : c.toNat ≤ '~'.toNat := Nat.le_trans bounds.2 (by decide)
  exact .inr ⟨low, high⟩

/-- A character that is shown is shown however often it is written. -/
theorem shown_replicate {mark : Char} (shown : IsShown mark) (count : Nat) :
    ∀ c ∈ List.replicate count mark, IsShown c := by
  intro c member
  rw [List.eq_of_mem_replicate member]
  exact shown

end Json

namespace Binary64

open Json (IsShown IsShownText shown_toDigits shown_replicate shown_of_all)

/-- A decimal is written in digits and marks. -/
theorem shown_written (layout : Layout) (decimal : Decimal) :
    ∀ c ∈ decimal.written layout, IsShown c := by
  have digits := shown_toDigits decimal.digits
  have zeros (count : Nat) := shown_replicate (by decide : IsShown '0') count
  have taken (count : Nat) : ∀ c ∈ (Nat.toDigits 10 decimal.digits).take count, IsShown c :=
    fun c member => digits c (List.mem_of_mem_take member)
  have dropped (count : Nat) : ∀ c ∈ (Nat.toDigits 10 decimal.digits).drop count, IsShown c :=
    fun c member => digits c (List.mem_of_mem_drop member)
  have marks : IsShown '.' ∧ IsShown '0' ∧ IsShown 'e' ∧ IsShown '-' ∧ IsShown '+' := by decide
  obtain ⟨point, zero, exponent, minus, plus⟩ := marks
  unfold Decimal.written
  -- Each layout puts digits, zeros and marks one behind the other.
  dsimp only
  split
  · split
    · simp only [List.forall_mem_append, List.forall_mem_cons]
      exact ⟨⟨digits, zeros _⟩, point, zero, by simp⟩
    · split
      · simp only [List.forall_mem_append, List.forall_mem_cons]
        exact ⟨taken _, point, dropped _⟩
      · simp only [List.forall_mem_append, List.forall_mem_cons, List.cons_append]
        exact ⟨zero, point, zeros _, digits⟩
  · have sign (negative : Prop) [Decidable negative] : IsShown (if negative then '-' else '+') := by
      split
      · exact minus
      · exact plus
    simp only [List.forall_mem_append, List.forall_mem_cons]
    refine ⟨⟨⟨taken 1, ?_⟩, exponent, sign _, zeros _⟩, shown_toDigits _⟩
    -- A point stands only before further digits.
    split
    · exact List.forall_mem_nil _
    · exact List.forall_mem_cons.mpr ⟨point, dropped 1⟩

/-- A number is written in printable ASCII. -/
theorem shown_text (number : Binary64) : IsShownText number.text := by
  -- A number is a word, or digits and a point behind a sign.
  cases number with
  | nan => exact shown_of_all rfl
  | infinite negative => cases negative <;> exact shown_of_all rfl
  | finite negative significand exponent =>
    have size : ∀ c ∈ (if significand = 0 then ['0', '.', '0']
        else (shortest significand exponent).written standardLayout), IsShown c := by
      split
      · exact shown_of_all rfl
      · exact shown_written _ _
    cases negative with
    | false => simpa [text, IsShownText] using size
    | true => simpa [text, IsShownText, (by decide : IsShown '-')] using size

end Binary64

namespace Json

/-- A number without a fraction is written in digits, behind a sign if it is negative. -/
theorem shown_toString (value : Int) : IsShownText (toString value) := by
  unfold IsShownText
  rw [Text.toList_toString_int]
  refine List.forall_mem_append.mpr ⟨?_, shown_toDigits _⟩
  split
  · exact shown_of_all rfl
  · simp

/-- A new line is shown. -/
theorem shown_newline (depth : Nat) : IsShownText (newline depth) :=
  (isBreak_newline depth).shown

/-- The marks around and between the parts of a value are shown. -/
theorem shown_marks : ∀ mark ∈ ["[", "]", "\x7b", "\x7d", ",", ": "], IsShownText mark := by
  simp only [List.forall_mem_cons]
  exact ⟨shown_of_all rfl, shown_of_all rfl, shown_of_all rfl, shown_of_all rfl, shown_of_all rfl,
    shown_of_all rfl, List.forall_mem_nil _⟩

/-- Values without parts are shown. -/
theorem shown_words : ∀ word ∈ ["null", "true", "false", "[]", "\x7b\x7d"], IsShownText word := by
  simp only [List.forall_mem_cons]
  exact ⟨shown_of_all rfl, shown_of_all rfl, shown_of_all rfl, shown_of_all rfl, shown_of_all rfl,
    List.forall_mem_nil _⟩

mutual

/-- The indented text of a value is shown. -/
theorem shown_indented (depth : Nat) : (value : Json) → IsShownText (indented depth value)
  | .null => shown_words _ (by simp [indented])
  | .bool value => shown_words _ (by cases value <;> simp [indented])
  | .int value => by
    rw [indented]
    exact shown_toString value
  | .float value => by
    rw [indented]
    exact value.shown_text
  | .text value => by
    rw [indented]
    exact shown_quote value
  | .array [] => shown_words _ (by simp [indented])
  | .array (first :: others) => by
    have marks := shown_marks
    simp only [List.forall_mem_cons] at marks
    simp only [indented, isShownText_append, marks, shown_newline, shown_indented (depth + 1) first,
      shown_indentedItems (depth + 1) others, and_self]
  | .object [] => shown_words _ (by simp [indented])
  | .object ((name, first) :: others) => by
    have marks := shown_marks
    have quoted : IsShownText (quote name) := shown_quote name
    simp only [List.forall_mem_cons] at marks
    simp only [indented, isShownText_append, marks, quoted, shown_newline,
      shown_indented (depth + 1) first, shown_indentedMembers (depth + 1) others, and_self]

/-- Further items are shown. -/
theorem shown_indentedItems (depth : Nat) :
    (items : List Json) → IsShownText (indented.indentedItems depth items)
  | [] => by simp [indented.indentedItems, IsShownText]
  | item :: rest => by
    have marks := shown_marks
    simp only [List.forall_mem_cons] at marks
    simp only [indented.indentedItems, isShownText_append, marks, shown_newline,
      shown_indented depth item, shown_indentedItems depth rest, and_self]

/-- Further members are shown. -/
theorem shown_indentedMembers (depth : Nat) :
    (members : List (String × Json)) → IsShownText (indented.indentedMembers depth members)
  | [] => by simp [indented.indentedMembers, IsShownText]
  | (name, value) :: rest => by
    have marks := shown_marks
    have quoted : IsShownText (quote name) := shown_quote name
    simp only [List.forall_mem_cons] at marks
    simp only [indented.indentedMembers, isShownText_append, marks, quoted, shown_newline,
      shown_indented depth value, shown_indentedMembers depth rest, and_self]

end

end Json

end AppSync
