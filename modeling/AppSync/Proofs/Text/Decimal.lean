import AppSync.Text.Hex
import Mathlib.Data.Nat.Notation

/-! Decimal digits that are written are split off again and spell what they were written from. -/

namespace AppSync.Text

/-- The digits of ASCII stand before its letters. -/
theorem bounds_of_isDigit {c : Char} (digit : c.isDigit = true) :
    0x30 ≤ c.toNat ∧ c.toNat ≤ 0x39 := by
  obtain ⟨above, below⟩ := Bool.and_eq_true_iff.mp digit
  exact ⟨of_decide_eq_true above, of_decide_eq_true below⟩

/-- Members of a class are taken up to what begins with none. -/
theorem takeWhile_append_of_stops {member : Char → Bool} (text : List Char) {more : List Char}
    (stops : ∀ c ∈ more.head?, member c = false) :
    (text ++ more).takeWhile member = text.takeWhile member ∧
      (text ++ more).dropWhile member = text.dropWhile member ++ more := by
  -- A character outside the class ends the run before what is behind the text.
  induction text with
  | nil =>
    cases more with
    | nil => exact ⟨rfl, rfl⟩
    | cons c others =>
      have outside := stops c rfl
      simp [outside]
  | cons c others ih =>
    rw [List.cons_append]
    cases inside : member c with
    | true => simp [inside, ih]
    | false => simp [inside]

/-- Only the digits of zero begin with one. -/
theorem eq_zero_of_head?_toDigits {value : Nat}
    (zero : (Nat.toDigits 10 value).head? = some '0') : value = 0 := by
  -- The first digit of a number with several is that of a tenth of it.
  induction value using Nat.strongRecOn with
  | ind value ih =>
    by_cases small : value < 10
    · have only_zero : ∀ digit < 10, Nat.digitChar digit = '0' → digit = 0 := by decide
      rw [Nat.toDigits_of_lt_base small, List.head?_cons, Option.some.injEq] at zero
      exact only_zero value small zero
    · have before := ih (value / 10) (by omega)
      obtain ⟨c, digits, same⟩ := List.exists_cons_of_ne_nil
        (Nat.toDigits_ne_nil (n := value / 10) (b := 10))
      rw [Nat.toDigits_of_base_le (by decide) (by omega), same, List.cons_append] at zero
      rw [same] at before
      have none := before zero
      omega

/-- The digits of a number spell it. -/
theorem decimalNumber_toDigits (value : Nat) : decimalNumber (Nat.toDigits 10 value) = value :=
  Nat.ofDigitChars_toDigits (by decide) (by decide)

/-- An integer is written in the digits of its size, behind a sign if it is negative. -/
theorem toList_toString_int (value : Int) :
    (toString value).toList =
      (if value < 0 then ['-'] else []) ++ Nat.toDigits 10 value.natAbs := by
  cases value with
  | ofNat value =>
    change (Nat.repr value).toList = _
    simp [Nat.toList_repr]
  | negSucc value =>
    change ("-" ++ Nat.repr (value + 1)).toList = _
    simp [Nat.toList_repr]

end AppSync.Text
