import AppSync.Text.Hex
import Mathlib.Algebra.Group.Nat.Defs

/-! Hexadecimal digits that are written read back as the number they were written from. -/

namespace AppSync.Text

/-- Each digit reads back as its own value. -/
theorem hexValue?_hexDigit {value : Nat} (small : value < 16) :
    hexValue? (hexDigit value) = some value := by
  -- There are few enough digits to read all of them back.
  have each : ∀ digit < 16, hexValue? (hexDigit digit) = some digit := by decide
  exact each value small

/-- One more digit behind others makes the number sixteen times as large and adds its value. -/
theorem hexNumber?_concat {digits : List Char} {number : Nat} {value : Nat} (small : value < 16)
    (read : hexNumber? digits = some number) :
    hexNumber? (digits ++ [hexDigit value]) = some (16 * number + value) := by
  unfold hexNumber? at read ⊢
  rw [List.foldlM_append, read]
  simp [hexValue?_hexDigit small]

/-- The digits that a width leaves room for read back as the number modulo that room. -/
theorem hexNumber?_hexFixed (width value : Nat) :
    hexNumber? (hexFixed width value) = some (value % 16 ^ width) := by
  -- The last digit is split off; the digits before it are those of a sixteenth of the number.
  induction width generalizing value with
  | zero => simp [hexFixed, hexNumber?, Nat.mod_one]
  | succ width ih =>
    rw [hexFixed, hexNumber?_concat (Nat.mod_lt _ (by decide)) (ih (value / 16)), Nat.pow_succ',
      Nat.mod_mul, Nat.add_comm]

/-- A digit is neither a brace nor anything else that an escape treats in its own way. -/
theorem hexDigit_ne_brace {value : Nat} (small : value < 16) : hexDigit value ≠ '\x7b' := by
  have each : ∀ digit < 16, hexDigit digit ≠ '\x7b' := by decide
  exact each value small

end AppSync.Text
