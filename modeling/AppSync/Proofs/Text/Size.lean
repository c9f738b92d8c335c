import AppSync.Text.Utf8
import Mathlib.Data.String.Basic

/-! How many bytes a text takes: at least as many as it has characters, and more beyond ASCII. -/

namespace AppSync.Utf8

/-- Listing the bytes of an array from a place on adds one for each that is left. -/
theorem length_toList_loop (bytes : ByteArray) (place : Nat) (listed : List UInt8) :
    (ByteArray.toList.loop bytes place listed).length = (bytes.size - place) + listed.length := by
  -- Each step of the loop lists one byte and goes to the next place.
  fun_induction ByteArray.toList.loop bytes place listed with
  | case1 place listed inside ih =>
    rw [ih, List.length_cons]
    omega
  | case2 place listed outside =>
    rw [List.length_reverse]
    omega

/-- The bytes of a text are those that its characters take. -/
theorem length_encode (text : String) : (encode text).length = String.utf8Len text.toList := by
  have listed : (encode text).length = (text.toUTF8.size - 0) + 0 :=
    length_toList_loop text.toUTF8 0 []
  rw [listed, String.utf8Len_toList]
  rfl

/-- Characters take at least one byte each, and no more exactly if all of them are ASCII. -/
theorem length_le_utf8Len (chars : List Char) :
    chars.length ≤ String.utf8Len chars ∧
      (chars.length = String.utf8Len chars ↔ ∀ c ∈ chars, c.toNat < 0x80) := by
  induction chars with
  | nil => simp
  | cons c rest ih =>
    obtain ⟨bound, exact⟩ := ih
    have one : 0 < c.utf8Size := Char.utf8Size_pos c
    have small : c.utf8Size = 1 ↔ c.toNat < 0x80 :=
      Char.utf8Size_eq_one_iff.trans Nat.lt_succ_iff.symm
    rw [List.length_cons, String.utf8Len_cons, List.forall_mem_cons, ← small, ← exact]
    -- What one character takes too much no other can make up for.
    omega

/-- A text has at most as many characters as bytes, and as many exactly if it is ASCII. -/
theorem length_le_encode (text : String) :
    text.length ≤ (encode text).length ∧
      (text.length = (encode text).length ↔ ∀ c ∈ text.toList, c.toNat < 0x80) := by
  rw [length_encode, ← String.length_toList]
  exact length_le_utf8Len text.toList

end AppSync.Utf8
