import AppSync.Proofs.Sdl.Dropping
import AppSync.Proofs.Sdl.Likeness
import AppSync.Sdl.Check

/-!
The check drops all parentheses around blanks, where only those of a bare deprecation are admitted.
Where the others stand in comments and strings that stay what they are, it accepts what the grammar
accepts; parentheses that mean something it drops as well.
-/

namespace AppSync.Sdl

/-! ## Bare deprecations -/

/-- Whether a text closes a parenthesis in front of it behind blanks only. -/
def closesEmpty (text : List Char) : Bool :=
  (text.dropWhile Text.isBlank).head? = some ')'

/-- The directive that may stand with empty parentheses. -/
def deprecatedMark : List Char := "@deprecated".toList

/--
Drops parentheses around blanks directly behind the directive; `before` is what has been read, the
last character first.
-/
def dropBareFrom (isDropping : Bool) (before : List Char) : List Char → List Char
  | [] => []
  | c :: rest =>
    if isDropping then dropBareFrom (c ≠ ')') (c :: before) rest
    else if c = '(' ∧ deprecatedMark.reverse <+: before ∧ closesEmpty rest then
      dropBareFrom true (c :: before) rest
    else c :: dropBareFrom false (c :: before) rest

/-- A text without the empty parentheses directly behind `@deprecated`. -/
def dropBareDeprecations (text : List Char) : List Char :=
  dropBareFrom false [] text

/-- What holds of the text in front of a place where parentheses are dropped. -/
def HeldBehind (held : Option (List Char)) (before : List Char) : Prop :=
  held.isSome → ∃ c ∈ before.head?, c = '(' ∨ Text.isBlank c = true

/-- No directive ends with a parenthesis or a blank. -/
theorem HeldBehind.none {held : Option (List Char)} {before : List Char}
    (behind : HeldBehind held before) (bare : deprecatedMark.reverse <+: before) : held = none := by
  cases held with
  | none => rfl
  | some held =>
    obtain ⟨c, first, kind⟩ := behind rfl
    obtain ⟨rest, rfl⟩ := bare
    obtain rfl : 'd' = c := Option.some.inj first
    rcases kind with same | blank
    · exact absurd same (by decide)
    · exact absurd blank (by decide)

section Walk

variable {c : Char} {rest before : List Char}

/-- While nothing bare is being dropped, a character is treated as it is without dropping first. -/
theorem dropEmptyFrom_dropBareFrom_kept {held : Option (List Char)}
    (kept : ∀ held, HeldBehind held (c :: before) →
      dropEmptyFrom held (dropBareFrom false (c :: before) rest) = dropEmptyFrom held rest)
    (dropped : closesEmpty rest = true → ∀ held,
      dropEmptyFrom none (dropBareFrom true (c :: before) rest) = dropEmptyFrom (some held) rest)
    (behind : HeldBehind held before) :
    dropEmptyFrom held (dropBareFrom false before (c :: rest)) = dropEmptyFrom held (c :: rest) := by
  have fresh : HeldBehind none (c :: before) := fun some => nomatch some
  rw [dropBareFrom, if_neg Bool.false_ne_true]
  split
  · -- A bare pair begins, so that nothing is held in front of it.
    rename_i bare
    obtain ⟨rfl, marked, closes⟩ := bare
    obtain rfl := behind.none marked
    rw [dropped closes ['('], dropEmptyFrom, if_pos rfl]
  · cases held with
    | none =>
      rw [dropEmptyFrom, dropEmptyFrom]
      split
      · rename_i seen
        exact kept _ fun _ => ⟨c, rfl, .inl seen⟩
      · rw [kept none fresh]
    | some held =>
      rw [dropEmptyFrom, dropEmptyFrom]
      split
      · exact kept none fresh
      · split
        · rename_i seen
          rw [kept _ fun _ => ⟨c, rfl, .inl seen⟩]
        · split
          · rename_i blank
            exact kept _ fun _ => ⟨c, rfl, .inr blank⟩
          · rw [kept none fresh]

/-- Within a bare pair, what the one walk drops is held by the other until it is dropped there. -/
theorem dropEmptyFrom_dropBareFrom_dropped
    (kept : ∀ held, HeldBehind held (c :: before) →
      dropEmptyFrom held (dropBareFrom false (c :: before) rest) = dropEmptyFrom held rest)
    (dropped : closesEmpty rest = true → ∀ held,
      dropEmptyFrom none (dropBareFrom true (c :: before) rest) = dropEmptyFrom (some held) rest)
    (closes : closesEmpty (c :: rest) = true) (held : List Char) :
    dropEmptyFrom none (dropBareFrom true before (c :: rest)) =
      dropEmptyFrom (some held) (c :: rest) := by
  have fresh : HeldBehind none (c :: before) := fun some => nomatch some
  rw [dropBareFrom, if_pos rfl, dropEmptyFrom]
  by_cases close : c = ')'
  · rw [if_pos close, decide_eq_false (not_not_intro close)]
    exact kept none fresh
  · -- What is in front of the closing parenthesis are blanks.
    have blank : Text.isBlank c = true := by
      cases filled : Text.isBlank c with
      | true => rfl
      | false =>
        rw [closesEmpty, List.dropWhile_cons_of_neg (by simp [filled])] at closes
        simp [close] at closes
    have seen : c ≠ '(' := by
      rintro rfl
      exact absurd blank (by decide)
    have behind : closesEmpty rest = true := by
      rwa [closesEmpty, List.dropWhile_cons_of_pos blank] at closes
    rw [if_neg close, if_neg seen, if_pos blank, decide_eq_true close]
    exact dropped behind (held ++ [c])

end Walk

/-- Dropping what is bare first changes nothing of what is left. -/
theorem dropEmptyFrom_dropBareFrom (text before : List Char) :
    (∀ held, HeldBehind held before →
      dropEmptyFrom held (dropBareFrom false before text) = dropEmptyFrom held text) ∧
    (closesEmpty text = true → ∀ held,
      dropEmptyFrom none (dropBareFrom true before text) = dropEmptyFrom (some held) text) := by
  -- Both walk through the text together; a bare pair is dropped by the one and held by the other.
  induction text generalizing before with
  | nil => exact ⟨fun held _ => rfl, fun closes => absurd closes (by decide)⟩
  | cons c rest ih =>
    obtain ⟨kept, dropped⟩ := ih (c :: before)
    exact ⟨fun held => dropEmptyFrom_dropBareFrom_kept kept dropped,
      dropEmptyFrom_dropBareFrom_dropped kept dropped⟩

/-- The check drops what is bare with all the rest. -/
theorem dropEmptyArguments_dropBareDeprecations (text : List Char) :
    dropEmptyArguments (dropBareDeprecations text) = dropEmptyArguments text :=
  (dropEmptyFrom_dropBareFrom text []).1 none fun some => nomatch some

/-! ## Texts that are spared -/

/-- Whether a text is skipped as a comment up to its end. -/
def isCommentLine : List Char → Bool
  | [] => true
  | c :: rest =>
    if endsComment c then false
    else if !Text.carriesHalf c then isCommentLine rest
    else
      match rest with
      | d :: others => Text.isPair c d && isCommentLine others
      | [] => false

/-- A comment is skipped up to the end of its line. -/
theorem skipIgnored_comment {line rest : List Char} (inLine : isCommentLine line = true)
    (ends : ∀ c ∈ rest.head?, endsComment c = true) :
    skipIgnored true (line ++ rest) = skipIgnored false rest := by
  -- The walk over the line is that of the lexer; only at its end is what follows looked at.
  induction line using isCommentLine.induct with
  | case1 =>
    cases rest with
    | nil => rfl
    | cons c rest =>
      have own := ends c rfl
      -- What ends a comment is no half of a character, and separates tokens.
      have whole : Text.carriesHalf c = false ∧ isSeparator c = true := by
        simp only [endsComment, Bool.or_eq_true, beq_iff_eq] at own
        rcases own with rfl | rfl <;> decide +kernel
      rw [List.nil_append, skipIgnored.eq_def, skipIgnored.eq_def false]
      simp [own, whole]
  | case2 c line own => simp [isCommentLine.eq_def, own] at inLine
  | case3 c line own whole ih =>
    rw [isCommentLine.eq_def] at inLine
    simp only [own, whole, if_false, if_true, Bool.false_eq_true] at inLine
    rw [List.cons_append, skipIgnored.eq_def]
    simpa [own, whole] using ih inLine
  | case4 c own half d others ih =>
    rw [isCommentLine.eq_def] at inLine
    simp only [own, half, if_false, Bool.false_eq_true] at inLine
    obtain ⟨pair, behind⟩ := Bool.and_eq_true_iff.mp inLine
    rw [List.cons_append, List.cons_append, skipIgnored.eq_def]
    simpa [half, pair] using ih behind
  | case5 c own half => simp [isCommentLine.eq_def, own, half] at inLine

/-- A half of a character begins no token. -/
theorem exists_lexToken_half {c : Char} (half : Text.carriesHalf c = true) (rest : List Char) :
    ∃ fault, lexToken (c :: rest) = .error fault := by
  have large : 0xd800 ≤ c.toNat := by
    by_contra small
    simp [Text.carriesHalf_of_small (Nat.lt_of_not_le small)] at half
  -- All that tokens begin with is far below.
  have other (d : Char) (small : d.toNat < 0xd800) : c ≠ d := by
    rintro rfl
    omega
  have outside : isNamePart c = false := by
    cases part : isNamePart c with
    | false => rfl
    | true =>
      have bounds := bounds_of_isNamePart part
      omega
  refine exists_lexToken_stray ⟨other _ (by decide), other _ (by decide), other _ (by decide),
    other _ (by decide)⟩ ?_ outside rest
  unfold Mark.ofChar?
  split
  all_goals first
    | rfl
    | exact absurd rfl (other _ (by decide))

/-- A comment is one up to the end of its line, unless it is broken by half a character. -/
theorem comment_cases (text : List Char) :
    (∃ line rest, text = line ++ rest ∧ isCommentLine line = true ∧
      ∀ c ∈ rest.head?, endsComment c = true) ∨
      ∃ fault, lexToken (skipIgnored true text) = .error fault := by
  -- A character that is whole, or two halves of one, go on with the comment; a lone half is left.
  induction text using isCommentLine.induct with
  | case1 => exact .inl ⟨[], [], rfl, rfl, nofun⟩
  | case2 c rest own =>
    exact .inl ⟨[], c :: rest, rfl, rfl, fun d first => Option.some.inj first ▸ own⟩
  | case3 c rest own whole ih =>
    have skipped : skipIgnored true (c :: rest) = skipIgnored true rest := by
      rw [skipIgnored.eq_def]
      simp [own, whole]
    rw [skipped]
    refine ih.imp_left ?_
    rintro ⟨line, behind, rfl, inLine, ends⟩
    refine ⟨c :: line, behind, rfl, ?_, ends⟩
    rw [isCommentLine.eq_def]
    simp [own, whole, inLine]
  | case4 c own half d others ih =>
    rw [skipIgnored.eq_def]
    simp only [half, if_false, Bool.false_eq_true]
    by_cases pair : Text.isPair c d = true
    · rw [if_pos pair]
      refine ih.imp_left ?_
      rintro ⟨line, behind, rfl, inLine, ends⟩
      refine ⟨c :: d :: line, behind, rfl, ?_, ends⟩
      rw [isCommentLine.eq_def]
      simp [own, half, pair, inLine]
    · rw [if_neg pair]
      exact .inr (exists_lexToken_half (by simpa using half) _)
  | case5 c own half =>
    rw [skipIgnored.eq_def]
    simp only [half, if_false, Bool.false_eq_true]
    exact .inr (exists_lexToken_half (by simpa using half) _)

/--
A text in which parentheses around blanks stand in comments and strings only, which stay comments
and strings when these are dropped.
-/
inductive Spared : List Char → Prop where
  | nothing : Spared []
  | separator {c : Char} {rest : List Char} (separates : isSeparator c = true)
      (spared : Spared rest) : Spared (c :: rest)
  /-- No pair of parentheses begins in a comment and ends behind it. -/
  | comment {line rest : List Char} (inLine : isCommentLine line = true)
      (stays : isCommentLine (dropEmptyArguments line) = true)
      (ends : ∀ c ∈ rest.head?, endsComment c = true)
      (parted : dropEmptyArguments (line ++ rest) =
        dropEmptyArguments line ++ dropEmptyArguments rest)
      (spared : Spared rest) : Spared ('#' :: (line ++ rest))
  | plain {front rest : List Char} {token : Token} (some_text : front ≠ [])
      (read : lexToken (front ++ rest) = .ok (token, rest)) (free : '(' ∉ front)
      (spared : Spared rest) : Spared (front ++ rest)
  /-- A parenthesis that means something closes on more than blanks. -/
  | opening {rest : List Char} (opened : Opened rest) (spared : Spared rest) :
      Spared ('(' :: rest)
  /-- In place of a string stands what is left of it. -/
  | text {front rest : List Char} {token left : Token} (some_text : front ≠ [])
      (read : lexToken (front ++ rest) = .ok (token, rest)) (text : token.isText = true)
      (stays : lexToken (dropEmptyArguments front ++ rest) = .ok (left, rest))
      (alike : token.Alike left) (spared : Spared rest) : Spared (front ++ rest)
  /-- Where no token can be read, none can be read of what is left. -/
  | fault {text : List Char} {fault left : LexicalFault}
      (failed : lexToken (skipIgnored false text) = .error fault)
      (stays : lexToken (skipIgnored false (dropEmptyArguments text)) = .error left) : Spared text

namespace Spared

/-- Any character but an opening parenthesis stays the first one. -/
theorem head?_dropEmptyArguments {text : List Char} (apart : ∀ c ∈ text.head?, c ≠ '(') :
    (dropEmptyArguments text).head? = text.head? := by
  cases text with
  | nil => rfl
  | cons c rest =>
    rw [dropEmptyArguments, dropEmptyFrom_other (apart c rfl)]
    rfl

/-- What is left of a spared text begins as it does. -/
theorem head? {text : List Char} (spared : Spared text) :
    (dropEmptyArguments text).head? = text.head? := by
  -- Only where a token is a parenthesis does the text begin with one, and that one is kept.
  cases spared with
  | nothing => rfl
  | separator separates _ =>
    refine head?_dropEmptyArguments fun c first => ?_
    cases first
    rintro rfl
    cases separates
  | comment => exact head?_dropEmptyArguments fun c first => by cases first; decide
  | @plain front rest _ some_text read free _ =>
    obtain ⟨c, others, rfl⟩ := List.exists_cons_of_ne_nil some_text
    refine head?_dropEmptyArguments fun d first => ?_
    rintro rfl
    exact free (Option.some.inj first ▸ List.mem_cons_self)
  | opening opened _ =>
    rw [← View.see_dropping, View.opening _ opened]
    rfl
  | text some_text read text stays alike _ =>
    refine head?_dropEmptyArguments fun c first => ?_
    rintro rfl
    obtain ⟨others, same⟩ := List.head?_eq_some_iff.mp first
    rw [same] at read
    cases read
    cases text
  | fault failed stays =>
    refine head?_dropEmptyArguments fun c first => ?_
    rintro rfl
    obtain ⟨others, rfl⟩ := List.head?_eq_some_iff.mp first
    cases failed

/-- A token is read in front of what is left of the rest as it was in front of the rest. -/
theorem onward {front rest : List Char} {token : Token} (some_text : front ≠ [])
    (read : lexToken (front ++ rest) = .ok (token, rest)) (spared : Spared rest) :
    lexToken (front ++ dropEmptyArguments rest) = .ok (token, dropEmptyArguments rest) := by
  obtain ⟨other, -, parted, -, goesOn⟩ := (steady_token (by simp [some_text]) read).split
  rw [List.append_cancel_right parted]
  exact goesOn _ (.of_head spared.head?)

section Opened

variable {text : List Char}

/-- What holds of the parentheses of a text holds of those of its parts. -/
theorem opened_part (opened : ∀ front rest, text = front ++ '(' :: rest → Opened rest)
    (front inside behind : List Char) (parted : text = front ++ (inside ++ behind))
    (first rest : List Char) (held : inside = first ++ '(' :: rest) : Opened rest := by
  have whole : Opened (rest ++ behind) := opened (front ++ first) (rest ++ behind) (by
    rw [parted, held]
    simp)
  exact whole.of_append

/-- Where nothing is dropped, a fault of the lexer stays. -/
theorem fault_of_opened (opened : ∀ front rest, text = front ++ '(' :: rest → Opened rest)
    {fault : LexicalFault} (failed : lexToken (skipIgnored false text) = .error fault) :
    Spared text :=
  .fault failed ((dropEmptyArguments_of_opened opened).symm ▸ failed)

/-- A comment is spared with what is behind its line. -/
theorem comment_of_opened {rest : List Char}
    (opened : ∀ front behind, '#' :: rest = front ++ '(' :: behind → Opened behind)
    (spared : ∀ line behind, rest = line ++ behind → Spared behind) : Spared ('#' :: rest) := by
  rcases comment_cases rest with ⟨line, behind, rfl, inLine, ends⟩ | ⟨fault, failed⟩
  · -- Nothing is dropped of the line, nor behind it.
    have kept : dropEmptyArguments line = line :=
      dropEmptyArguments_of_opened (opened_part opened ['#'] line behind rfl)
    have keptBehind : dropEmptyArguments behind = behind :=
      dropEmptyArguments_of_opened (opened_part opened ('#' :: line) behind [] (by simp))
    have keptBoth : dropEmptyArguments (line ++ behind) = line ++ behind :=
      dropEmptyArguments_of_opened (opened_part opened ['#'] (line ++ behind) [] (by simp))
    exact .comment inLine (kept.symm ▸ inLine) ends (by rw [kept, keptBehind, keptBoth])
      (spared line behind rfl)
  · exact fault_of_opened opened failed

/-- A token is spared with what is behind it. -/
theorem token_of_opened {front rest : List Char} {token : Token}
    (opened : ∀ first behind, front ++ rest = first ++ '(' :: behind → Opened behind)
    (some_text : front ≠ []) (read : lexToken (front ++ rest) = .ok (token, rest))
    (spared : Spared rest) : Spared (front ++ rest) := by
  have nonempty : front ++ rest ≠ [] := by simp [some_text]
  obtain ⟨same, -, parted, off, -⟩ := (steady_token nonempty read).split
  obtain rfl := List.append_cancel_right parted
  by_cases mark : token = .mark .parenOpen
  · subst mark
    obtain rfl : front = ['('] := off
    exact .opening (opened [] rest rfl) spared
  -- A string may hold parentheses, all of which are kept; no other token does.
  cases text : token.isText with
  | false => exact .plain some_text read (off.free mark text) spared
  | true =>
    have kept : dropEmptyArguments front = front :=
      dropEmptyArguments_of_opened (opened_part opened [] front rest rfl)
    exact .text some_text read text (kept.symm ▸ read) (.same token) spared

/-- A text in which every parenthesis closes on more than blanks is spared. -/
theorem of_opened (opened : ∀ front rest, text = front ++ '(' :: rest → Opened rest) :
    Spared text := by
  -- The induction is on the length of the text, from which each part takes a character at least.
  induction length : text.length using Nat.strong_induction_on generalizing text with
  | _ size ih =>
    have spared {front rest : List Char} (some_text : front ≠ []) (parted : text = front ++ rest) :
        Spared rest := by
      have opens := opened_part opened front rest [] (by rw [parted, List.append_nil])
      refine ih rest.length ?_ opens rfl
      have positive := List.length_pos_iff.mpr some_text
      rw [← length, parted, List.length_append]
      omega
    cases text with
    | nil => exact .nothing
    | cons c rest =>
      by_cases separates : isSeparator c = true
      · exact .separator separates (spared (List.cons_ne_nil c []) rfl)
      by_cases comment : c = '#'
      · subst comment
        refine comment_of_opened opened fun line behind parted => ?_
        exact spared (List.cons_ne_nil '#' line) (by rw [parted, List.cons_append])
      have here : ∀ d ∈ (c :: rest).head?, isSeparator d = false ∧ d ≠ '#' := by
        intro d first
        obtain rfl : c = d := Option.some.inj first
        exact ⟨by simpa using separates, comment⟩
      cases read : lexToken (c :: rest) with
      | error fault => exact fault_of_opened opened (by rw [Lexes.skipIgnored_eq here, read])
      | ok found =>
        obtain ⟨token, behind⟩ := found
        obtain ⟨front, some_text, parted, -⟩ := (steady_token (by simp) read).split
        have sparedBehind := spared some_text parted
        rw [parted] at opened read ⊢
        exact token_of_opened opened some_text read sparedBehind

end Opened

end Spared

/-! ## Tokens of what is left -/

/-- What is left of a text has the same tokens as the text, but for what strings say. -/
def LexesAlike (text : List Char) : Prop :=
  ∃ tokens others, Lexes text tokens ∧ Lexes (dropEmptyArguments text) others ∧
    List.Forall₂ Token.Alike tokens others

namespace LexesAlike

variable {front rest : List Char}

/-- A separator is skipped on both sides. -/
theorem separator {c : Char} (separates : isSeparator c = true) (behind : LexesAlike rest) :
    LexesAlike (c :: rest) := by
  obtain ⟨tokens, others, lexes, left, alike⟩ := behind
  have drops := View.dropping.see_append (free_of_isSeparator separates) rest
  rw [View.see_dropping, View.see_dropping, List.singleton_append] at drops
  refine ⟨tokens, others, lexes.separator separates, ?_, alike⟩
  rw [drops]
  exact left.separator separates

/-- A comment that stays one is skipped on both sides. -/
theorem comment {line : List Char} (inLine : isCommentLine line = true)
    (stays : isCommentLine (dropEmptyArguments line) = true)
    (ends : ∀ c ∈ rest.head?, endsComment c = true)
    (parted : dropEmptyArguments (line ++ rest) =
      dropEmptyArguments line ++ dropEmptyArguments rest)
    (first : (dropEmptyArguments rest).head? = rest.head?) (behind : LexesAlike rest) :
    LexesAlike ('#' :: (line ++ rest)) := by
  obtain ⟨tokens, others, lexes, left, alike⟩ := behind
  -- The mark of a comment is skipped like all that is in its line.
  have mark (text : List Char) : skipIgnored false ('#' :: text) = skipIgnored true text := by
    rw [skipIgnored, if_neg (by decide), if_pos rfl]
  have drops : dropEmptyArguments ('#' :: (line ++ rest)) =
      '#' :: (dropEmptyArguments line ++ dropEmptyArguments rest) := by
    rw [← parted]
    exact dropEmptyFrom_other (by decide) _
  refine ⟨tokens, others, lexes.skip ?_ (by simp; omega), drops ▸ left.skip ?_ (by simp; omega),
    alike⟩
  · rw [mark, skipIgnored_comment inLine ends]
  · rw [mark, skipIgnored_comment stays (first ▸ ends)]

/-- A token is read on both sides, off what is left of its text on the one. -/
theorem token {kept : List Char} {token other : Token} (some_text : front ≠ [])
    (read : lexToken (front ++ rest) = .ok (token, rest))
    (drops : dropEmptyArguments (front ++ rest) = kept ++ dropEmptyArguments rest)
    (some_left : kept ≠ [])
    (stays : lexToken (kept ++ dropEmptyArguments rest) = .ok (other, dropEmptyArguments rest))
    (same : token.Alike other) (behind : LexesAlike rest) : LexesAlike (front ++ rest) := by
  obtain ⟨tokens, others, lexes, left, alike⟩ := behind
  refine ⟨_, _, lexes.token (by simp [some_text]) read, ?_, .cons same alike⟩
  rw [drops]
  exact left.token (by simp [some_left]) stays

end LexesAlike

/-- What is read as a string is not dropped as a whole. -/
theorem dropEmptyArguments_ne_nil {front rest : List Char} {token other : Token}
    (text : token.isText = true) (same : token.Alike other)
    (stays : lexToken (dropEmptyArguments front ++ rest) = .ok (other, rest)) :
    dropEmptyArguments front ≠ [] := by
  intro none
  rw [none, List.nil_append] at stays
  -- A token takes characters off its text, and the end of a text is no string.
  cases rest with
  | nil =>
    cases stays
    cases same
    cases text
  | cons c rest => exact absurd (steady_token (by simp) stays).shorter (Nat.lt_irrefl _)

/-- What is left of a spared text has the same tokens, but for what strings say. -/
theorem Spared.lexesAlike {text : List Char} (spared : Spared text) : LexesAlike text := by
  -- Each part is seen apart from the rest, so that both texts go on with what is alike.
  induction spared with
  | nothing => exact ⟨_, _, .nothing, .nothing, .cons (.same _) .nil⟩
  | separator separates _ ih => exact ih.separator separates
  | comment inLine stays ends parted spared ih =>
    exact ih.comment inLine stays ends parted spared.head?
  | @plain front rest token some_text read free spared ih =>
    have drops := View.dropping.see_append free rest
    rw [View.see_dropping, View.see_dropping] at drops
    exact ih.token some_text read drops some_text (spared.onward some_text read) (.same token)
  | @opening rest opened spared ih =>
    have some_text : ['('] ≠ [] := List.cons_ne_nil '(' []
    have drops : dropEmptyArguments (['('] ++ rest) = ['('] ++ dropEmptyArguments rest :=
      View.dropping.opening opened
    exact ih.token some_text rfl drops some_text rfl (.same (.mark .parenOpen))
  | @text front rest token also some_text read text stays same spared ih =>
    obtain ⟨other, -, parted, off, -⟩ := (steady_token (by simp [some_text]) read).split
    obtain rfl := List.append_cancel_right parted
    have drops := off.apart View.dropping (by rintro rfl; cases text) rest
    rw [View.see_dropping, View.see_dropping, View.see_dropping] at drops
    have some_left := dropEmptyArguments_ne_nil text same stays
    exact ih.token some_text read drops some_left (spared.onward some_left stays) same
  | fault failed stays => exact ⟨_, _, .fault failed, .fault stays, .cons (.invalid _ _) .nil⟩

/-! ## What the check accepts -/

/--
A document that is spared once the parentheses of bare deprecations are dropped passes the check if
and only if what is left of it then is in the grammar.
-/
theorem check_iff_of_spared {document : String} (some_text : Text.isBlankText document = false)
    (spared : Spared (dropBareDeprecations document.toList)) :
    check document = .ok () ↔
      ∃ definitions, parse (dropBareDeprecations document.toList) = .ok definitions := by
  -- What the check reads has the tokens of the document without bare deprecations.
  obtain ⟨tokens, others, lexes, left, alike⟩ := spared.lexesAlike
  rw [dropEmptyArguments_dropBareDeprecations] at left
  rw [← lexes.lex_eq, ← left.lex_eq] at alike
  rw [exists_parse_iff alike, check, if_neg (by simp [some_text])]
  cases parse (dropEmptyArguments document.toList) <;> simp [Except.map]

/-- A scalar that is deprecated bare, with empty parentheses in a comment and a description. -/
def sparedScalar : String := "# a ()\n\"( )\" scalar T @deprecated()"

/-- The scalar passes the check, and is a definition once its deprecation has no parentheses. -/
theorem check_sparedScalar : Text.isBlankText sparedScalar = false ∧
    Spared (dropBareDeprecations sparedScalar.toList) ∧ check sparedScalar = .ok () ∧
      ∃ definitions, parse (dropBareDeprecations sparedScalar.toList) = .ok definitions := by
  have some_text : Text.isBlankText sparedScalar = false := by decide +kernel
  have checked : check sparedScalar = .ok () := by decide +kernel
  have spared : Spared (dropBareDeprecations sparedScalar.toList) := by
    have split : dropBareDeprecations sparedScalar.toList =
        '#' :: (" a ()".toList ++ '\n' :: ("\"( )\"".toList ++
          " scalar T @deprecated".toList)) := by
      decide +kernel
    rw [split]
    have line {c : Char} (first : c = '\n') : endsComment c = true := by
      rw [first]
      rfl
    -- No parenthesis is left behind the description.
    have free : '(' ∉ " scalar T @deprecated".toList := by decide +kernel
    have behind : Spared " scalar T @deprecated".toList :=
      .of_opened fun front rest parted => absurd (by simp [parted]) free
    refine .comment (by decide +kernel) (by decide +kernel)
      (fun c first => line (Option.some.inj first).symm) (by decide +kernel) (.separator rfl ?_)
    exact .text (by decide) (by decide +kernel : _ = Except.ok (.string "( )", _)) rfl
      (by decide +kernel : _ = Except.ok (.string "", _)) (.string "( )" "") behind
  exact ⟨some_text, spared, checked, (check_iff_of_spared some_text spared).mp checked⟩

/-- A keyword that is put together from what stands on both sides of empty parentheses. -/
def joinedKeyword : String := "ty()pe T \x7b f: Int \x7d"

/-- The check accepts what is no document with or without bare deprecations. -/
theorem check_joinedKeyword : Text.isBlankText joinedKeyword = false ∧
    check joinedKeyword = .ok () ∧
      ¬∃ definitions, parse (dropBareDeprecations joinedKeyword.toList) = .ok definitions := by
  refine ⟨by decide +kernel, by decide +kernel, ?_⟩
  rintro ⟨definitions, parsed⟩
  have refused : (parse (dropBareDeprecations joinedKeyword.toList)).isOk = false := by
    decide +kernel
  simp [parsed, Except.isOk, Except.toBool] at refused

end AppSync.Sdl
