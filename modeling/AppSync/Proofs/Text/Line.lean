import AppSync.Proofs.Text.Half
import AppSync.Sdl.Lexer
import AppSync.Text.Line

/-! The lines of a text: what they hold of it, and what ends them. -/

namespace AppSync.Text

variable {c : Char} {text rest : List Char}

/-- A line feed is a break. -/
theorem isLineBreak_feed : isLineBreak '\n' = true := by
  unfold isLineBreak
  decide

/-- A character that ends no line is neither a line feed nor a carriage return. -/
theorem ne_of_inside (inside : isLineBreak c = false) : ¬(c = '\n' ∨ c = '\r') := by
  unfold isLineBreak at inside
  rintro (rfl | rfl) <;> exact absurd inside (by decide)

/-- A break ends a line. -/
theorem lines_break (breaks : isLineBreak c = true)
    (single : ∀ tail, c = '\r' → rest ≠ '\n' :: tail) : lines (c :: rest) = [] :: lines rest := by
  rw [lines.eq_3 c rest single, if_pos breaks]

/-- A character that ends nothing joins the first line. -/
theorem lines_inside (inside : isLineBreak c = false) :
    lines (c :: rest) = Sdl.consLine [c] (lines rest) := by
  have single : ∀ tail, c = '\r' → rest ≠ '\n' :: tail :=
    fun _ same => (ne_of_inside inside (.inr same)).elim
  rw [lines.eq_3 c rest single, if_neg (by simp [inside])]
  cases lines rest <;> rfl

/-- The first line is what a text begins with. -/
theorem prefix_of_lines {line : List Char} {more : List (List Char)}
    (first : lines text = line :: more) : ∃ rest, text = line ++ rest := by
  -- A break puts an empty line in front, any other character joins the first line.
  induction text using lines.induct generalizing line more with
  | case1 => simp [lines] at first
  | case2 rest _ =>
    rw [lines.eq_2] at first
    cases first
    exact ⟨_, rfl⟩
  | case3 c rest single breaks _ =>
    rw [lines_break breaks single] at first
    cases first
    exact ⟨_, rfl⟩
  | case4 c rest _ inside none _ =>
    rw [lines_inside (by simpa using inside), none] at first
    cases first
    exact ⟨rest, rfl⟩
  | case5 c rest _ inside line' more' others ih =>
    rw [lines_inside (by simpa using inside), others] at first
    cases first
    obtain ⟨tail, rfl⟩ := ih others
    exact ⟨tail, rfl⟩

/-- The characters of a line are those of its text, and none ends it. -/
theorem inside_of_mem_lines {line : List Char} (member : line ∈ lines text) :
    ∀ d ∈ line, d ∈ text ∧ isLineBreak d = false := by
  -- The characters of a line were put there one by one, none of them a break.
  induction text using lines.induct generalizing line with
  | case1 => simp [lines] at member
  | case2 rest ih =>
    intro d found
    rw [lines.eq_2] at member
    rcases List.mem_cons.mp member with rfl | member
    · cases found
    · obtain ⟨old, inside⟩ := ih member d found
      exact ⟨by simp [old], inside⟩
  | case3 c rest single breaks ih =>
    intro d found
    rw [lines_break breaks single] at member
    rcases List.mem_cons.mp member with rfl | member
    · cases found
    · obtain ⟨old, inside⟩ := ih member d found
      exact ⟨by simp [old], inside⟩
  | case4 c rest _ inside none _ =>
    intro d found
    have inside : isLineBreak c = false := by simpa using inside
    rw [lines_inside inside, none] at member
    cases List.mem_singleton.mp member
    cases List.mem_singleton.mp found
    exact ⟨List.mem_cons_self, inside⟩
  | case5 c rest _ inside first more others ih =>
    intro d found
    have inside : isLineBreak c = false := by simpa using inside
    rw [lines_inside inside, others] at member
    rw [others] at ih
    rcases List.mem_cons.mp member with rfl | member
    · rcases List.mem_cons.mp found with rfl | found
      · exact ⟨List.mem_cons_self, inside⟩
      · obtain ⟨old, free⟩ := ih List.mem_cons_self d found
        exact ⟨by simp [old], free⟩
    · obtain ⟨old, free⟩ := ih (List.mem_cons_of_mem _ member) d found
      exact ⟨by simp [old], free⟩

/-- No half of a character ends a line. -/
theorem inside_of_carriesHalf (half : carriesHalf c = true) : isLineBreak c = false := by
  -- What ends a line comes before all halves.
  cases breaks : isLineBreak c with
  | false => rfl
  | true =>
    have small : c.toNat < 0xd800 := by
      unfold isLineBreak at breaks
      simp only [Bool.or_eq_true, beq_iff_eq] at breaks
      rcases breaks with
        ((((((((rfl | rfl) | rfl) | rfl) | rfl) | rfl) | rfl) | rfl) | rfl) | rfl <;> decide
    simp [carriesHalf_of_small small] at half

/-- Halves are paired in a text if they are so in each of its lines. -/
theorem all_isPaired_lines (text : List Char) : (lines text).all isPaired = isPaired text := by
  -- Pairs stay together, and what stands by itself does so in its line.
  induction text using induct_isPaired with
  | nil => rfl
  | whole c rest whole ih =>
    rw [isPaired_whole whole, ← ih]
    cases breaks : isLineBreak c with
    | false =>
      rw [lines_inside breaks]
      cases lines rest <;> simp [Sdl.consLine, isPaired_whole whole, isPaired_nil]
    | true =>
      by_cases paired : ∃ tail, c = '\r' ∧ rest = '\n' :: tail
      · obtain ⟨tail, rfl, rfl⟩ := paired
        rw [lines.eq_2, lines_break isLineBreak_feed fun _ same => absurd same (by decide)]
      · rw [lines_break breaks fun tail same feed => paired ⟨tail, same, feed⟩]
        rfl
  | pair c d rest pair ih =>
    obtain ⟨first, second⟩ := carriesHalf_of_isPair pair
    rw [isPaired_pair pair, ← ih, lines_inside (inside_of_carriesHalf first),
      lines_inside (inside_of_carriesHalf second)]
    cases lines rest <;> simp [Sdl.consLine, isPaired_pair pair, isPaired_nil]
  | stray c rest half stray =>
    rw [isPaired_stray half stray, lines_inside (inside_of_carriesHalf half)]
    cases lined : lines rest with
    | nil => simp [Sdl.consLine, isPaired, half]
    | cons line more =>
      -- The first line goes on as the text does, or not at all.
      obtain ⟨behind, rfl⟩ := prefix_of_lines lined
      have alone : ∀ d ∈ line.head?, isPair c d = false := by
        intro d first
        refine stray d ?_
        rw [List.head?_append, first]
        rfl
      simp [Sdl.consLine, isPaired_stray half alone]

/-- Only a text without characters has no lines. -/
theorem lines_ne_nil (some_text : text ≠ []) : lines text ≠ [] := by
  intro none
  cases text using lines.fun_cases <;> simp_all [lines]

end AppSync.Text
