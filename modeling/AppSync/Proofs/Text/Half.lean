import AppSync.Text.Half
import Mathlib.Logic.Function.Basic

/-! Characters and the codes that they have, or that the halves have which they carry. -/

namespace AppSync.Text

/-- A character that carries no half has its own code. -/
theorem codeOf_eq {c : Char} (whole : carriesHalf c = false) : codeOf c = c.toNat := by
  -- Only a character that carries a half has another code.
  unfold carriesHalf at whole
  unfold codeOf at whole ⊢
  split
  · rename_i half
    rw [if_pos half] at whole
    exact absurd half (by simp [whole])
  · rfl

/-- A half has the code of no character. -/
theorem codeOf_injective : Function.Injective codeOf := by
  intro c d same
  -- A character that carries a half is told by its code, which no other character has.
  have valid : c.toNat < 0xd800 ∨ (0xdfff < c.toNat ∧ c.toNat < 0x110000) := c.valid
  have valid' : d.toNat < 0xd800 ∨ (0xdfff < d.toNat ∧ d.toNat < 0x110000) := d.valid
  refine Char.toNat_inj.mp ?_
  unfold codeOf at same
  simp only [isHalf, Bool.and_eq_true, decide_eq_true_eq] at same
  split at same
  · split at same
    · omega
    · omega
  · split at same
    · omega
    · exact same

/-- A text without halves of characters has none at any place. -/
theorem carriesHalf_of_hasHalves {text : String} (whole : hasHalves text = false) :
    ∀ c ∈ text.toList, carriesHalf c = false := by
  simpa [hasHalves] using whole

/-- Texts have halves of characters where one of them has. -/
theorem hasHalves_append (first second : String) :
    hasHalves (first ++ second) = (hasHalves first || hasHalves second) := by
  simp [hasHalves]

/-- Two texts without halves of characters have none together. -/
theorem hasHalves_joined {front behind : String} (first : hasHalves front = false)
    (second : hasHalves behind = false) : hasHalves (front ++ behind) = false := by
  rw [hasHalves_append, first, second]
  rfl

/-- A character before all halves carries none. -/
theorem carriesHalf_of_small {c : Char} (small : c.toNat < 0xd800) : carriesHalf c = false := by
  -- Neither its code nor a smaller number is a half.
  have low (code : Nat) (below : code ≤ c.toNat) : isHalf code = false := by
    unfold isHalf
    rw [Bool.and_eq_false_iff, decide_eq_false_iff_not]
    omega
  have distant := low (c.toNat - carrierDistance) (Nat.sub_le _ _)
  unfold carriesHalf codeOf
  rw [distant, if_neg Bool.false_ne_true]
  exact low c.toNat (Nat.le_refl _)

/-- Whether halves of characters stand in pairs only, each of which makes a character. -/
def isPaired : List Char → Bool
  | [] => true
  | [c] => !carriesHalf c
  | c :: d :: rest =>
    if carriesHalf c then isPair c d && isPaired rest else isPaired (d :: rest)

/-- Nothing has no halves. -/
theorem isPaired_nil : isPaired [] = true :=
  rfl

/-- A pair is one of two halves. -/
theorem carriesHalf_of_isPair {c d : Char} (pair : isPair c d = true) :
    carriesHalf c = true ∧ carriesHalf d = true := by
  simp only [isPair, isHighHalf, isLowHalf, Bool.and_eq_true, decide_eq_true_eq] at pair
  simp only [carriesHalf, isHalf, Bool.and_eq_true, decide_eq_true_eq]
  omega

/-- A character before all halves completes no pair. -/
theorem isPair_of_small {c d : Char} (small : d.toNat < 0xd800) : isPair c d = false := by
  refine Bool.eq_false_iff.mpr fun pair => ?_
  have half := (carriesHalf_of_isPair pair).2
  rw [carriesHalf_of_small small] at half
  cases half

/-- A character that carries no half is not looked at. -/
theorem isPaired_whole {c : Char} (whole : carriesHalf c = false) (rest : List Char) :
    isPaired (c :: rest) = isPaired rest := by
  cases rest <;> simp [isPaired, whole]

/-- Neither is a pair. -/
theorem isPaired_pair {c d : Char} (pair : isPair c d = true) (rest : List Char) :
    isPaired (c :: d :: rest) = isPaired rest := by
  rw [isPaired, if_pos (carriesHalf_of_isPair pair).1, pair, Bool.true_and]

/-- A half that what follows does not complete stands by itself. -/
theorem isPaired_stray {c : Char} {rest : List Char} (half : carriesHalf c = true)
    (stray : ∀ d ∈ rest.head?, isPair c d = false) : isPaired (c :: rest) = false := by
  cases rest with
  | nil => simp [isPaired, half]
  | cons d others => simp [isPaired, half, stray d rfl]

/-- A text is followed character by character, but for pairs, up to a half that stands by itself. -/
@[elab_as_elim]
theorem induct_isPaired {motive : List Char → Prop} (nil : motive [])
    (whole : ∀ c rest, carriesHalf c = false → motive rest → motive (c :: rest))
    (pair : ∀ c d rest, isPair c d = true → motive rest → motive (c :: d :: rest))
    (stray : ∀ c rest, carriesHalf c = true → (∀ d ∈ rest.head?, isPair c d = false) →
      motive (c :: rest)) (text : List Char) : motive text := by
  -- The cases of the definition are regrouped: a half at the end is a stray one.
  induction text using isPaired.induct with
  | case1 => exact nil
  | case2 c =>
    cases half : carriesHalf c with
    | false => exact whole c [] half nil
    | true => exact stray c [] half fun _ none => nomatch none
  | case3 c d rest half ih =>
    cases paired : isPair c d with
    | false =>
      refine stray c _ half ?_
      rintro other ⟨⟩
      exact paired
    | true => exact pair c d rest paired ih
  | case4 c d rest half ih => exact whole c _ (by simpa using half) ih

/-- A text without halves in front is not looked at. -/
theorem isPaired_append {front : List Char} (whole : ∀ c ∈ front, carriesHalf c = false)
    (rest : List Char) : isPaired (front ++ rest) = isPaired rest := by
  induction front with
  | nil => rfl
  | cons c front ih =>
    rw [List.cons_append, isPaired_whole (whole c List.mem_cons_self),
      ih fun d member => whole d (List.mem_cons_of_mem c member)]

/-- Where there are no halves, none stands by itself. -/
theorem isPaired_of_hasHalves {text : String} (whole : hasHalves text = false) :
    isPaired text.toList = true := by
  have none := isPaired_append (carriesHalf_of_hasHalves whole) []
  rwa [List.append_nil] at none

end AppSync.Text
