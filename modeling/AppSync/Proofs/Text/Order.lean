import AppSync.Proofs.Text.Half
import Mathlib.Data.List.Lex
import Mathlib.Order.Nat

/-! The order of texts is that of the lists of their codes, and tells any two of them apart. -/

namespace AppSync.Text

/-- The codes of the characters of a text. -/
def codes (text : String) : List Nat :=
  text.toList.map codeOf

/-- Texts with the same codes are the same. -/
theorem codes_injective : Function.Injective codes := by
  intro first second same
  exact String.toList_inj.mp (List.map_injective_iff.mpr codeOf_injective same)

/-- One list of characters is before another one exactly if its codes are. -/
theorem codesBefore_iff (first second : List Char) :
    codesBefore first second = true ↔ first.map codeOf < second.map codeOf := by
  -- The first codes decide unless they are the same.
  induction first generalizing second with
  | nil => cases second <;> simp [codesBefore]
  | cons c first ih =>
    cases second with
    | nil => simp [codesBefore]
    | cons d second => simp [codesBefore, ih, List.cons_lt_cons_iff]

/-- Texts are in order exactly if their codes are. -/
theorem codesInOrder_iff {first second : String} :
    codesInOrder first second = true ↔ codes first ≤ codes second := by
  rw [codesInOrder, Bool.not_eq_true', ← Bool.not_eq_true, codesBefore_iff, not_lt]
  rfl

end AppSync.Text
