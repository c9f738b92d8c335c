import AppSync.Proofs.Sdl.Scanning
import Mathlib.Data.List.Forall2

/-!
Texts seen through a view that drops parentheses around nothing, and the tokens that parts of a text
are seen as. To see a text as it is is one such view.
-/

namespace AppSync.Sdl

/-- Whether an opening parenthesis in front of a text closes on more than blanks. -/
def Opened (text : List Char) : Prop :=
  ∀ c ∈ (text.dropWhile Text.isBlank).head?, c ≠ ')'

/-- A way to see texts that changes nothing but parentheses around blanks. -/
structure View where
  see : List Char → List Char
  nothing : see [] = []
  other : ∀ {c : Char} (rest : List Char), c ≠ '(' → see (c :: rest) = c :: see rest
  opening : ∀ {rest : List Char}, Opened rest → see ('(' :: rest) = '(' :: see rest
  /-- What stands in front of a quote is seen without regard to what stands behind it. -/
  quote : ∀ front rest : List Char, see (front ++ '"' :: rest) = see front ++ '"' :: see rest

namespace View

/-- Texts are seen as they are. -/
def plain : View where
  see text := text
  nothing := rfl
  other _ _ := rfl
  opening _ := rfl
  quote _ _ := rfl

/-- The view of texts as they are changes nothing. -/
theorem see_plain (text : List Char) : plain.see text = text :=
  rfl

variable (view : View)

/-- A text without opening parentheses is seen as it is, in front of any other. -/
theorem see_append {text : List Char} (free : '(' ∉ text) (rest : List Char) :
    view.see (text ++ rest) = text ++ view.see rest := by
  induction text with
  | nil => rfl
  | cons c text ih =>
    obtain ⟨first, others⟩ : '(' ≠ c ∧ '(' ∉ text := by simpa using free
    rw [List.cons_append, view.other _ first.symm, ih others, List.cons_append]

/-- A text without opening parentheses is seen as it is. -/
theorem see_free {text : List Char} (free : '(' ∉ text) : view.see text = text := by
  have alone := view.see_append free []
  rwa [List.append_nil, view.nothing, List.append_nil] at alone

/-- Whether what stands in front is seen without regard to what stands behind it. -/
def Apart (front : List Char) : Prop :=
  ∀ rest, view.see (front ++ rest) = view.see front ++ view.see rest

variable {view}

/-- A text without opening parentheses is seen apart from what stands behind it. -/
theorem Apart.of_free {front : List Char} (free : '(' ∉ front) : view.Apart front := by
  intro rest
  rw [view.see_append free, view.see_free free]

/-- Texts that are seen apart are so together. -/
theorem Apart.append {first second : List Char} (apart : view.Apart first)
    (apartSecond : view.Apart second) : view.Apart (first ++ second) := by
  intro rest
  rw [List.append_assoc, apart, apartSecond, ← List.append_assoc, apart]

end View

/-- Whether a token is a string. -/
def Token.isText : Token → Bool
  | .string _ | .block _ => true
  | _ => false

/-- No opening parenthesis stands in what is neither one nor a string. -/
theorem Token.ReadOff.free {token : Token} {front : List Char} (read : token.ReadOff front)
    (closed : token ≠ .mark .parenOpen) (plain : token.isText = false) : '(' ∉ front := by
  cases token with
  | string value | block value => cases plain
  | mark mark =>
    cases mark with
    | parenOpen => exact (closed rfl).elim
    | _ => exact read
  | _ => exact read

/-- A token that is no opening parenthesis is seen apart from what follows it. -/
theorem Token.ReadOff.apart (view : View) {token : Token} {front : List Char}
    (read : token.ReadOff front) (closed : token ≠ .mark .parenOpen) : view.Apart front := by
  -- A string ends with a quote, and behind anything else nothing is open.
  cases text : token.isText with
  | false => exact .of_free (read.free closed text)
  | true =>
    obtain ⟨inside, rfl⟩ : ∃ inside, front = inside ++ ['"'] := by
      cases token with
      | string value | block value => exact read
      | _ => cases text
    intro rest
    rw [List.append_assoc, List.singleton_append, view.quote, view.quote, view.nothing,
      List.append_assoc]
    rfl

/-- Separators are no parentheses. -/
theorem free_of_isSeparator {c : Char} (separates : isSeparator c = true) : '(' ∉ [c] := by
  intro member
  cases List.mem_singleton.mp member
  cases separates

/-- What holds of separators and of what tokens are read off holds of the text of all of them. -/
theorem Scans.exists_front {holds : List Char → Prop} (nothing : holds [])
    (both : ∀ first second, holds first → holds second → holds (first ++ second))
    (separator : ∀ c, isSeparator c = true → holds [c])
    {text rest : List Char} {tokens : List Token} (scans : Scans text tokens rest)
    (own : ∀ token ∈ tokens, ∀ front, token.ReadOff front → holds front) :
    ∃ front, text = front ++ rest ∧ holds front := by
  -- Each step takes a separator or a token off the front.
  induction scans with
  | done rest => exact ⟨[], rfl, nothing⟩
  | @separator c text rest tokens separates _ ih =>
    obtain ⟨front, rfl, held⟩ := ih own
    exact ⟨[c] ++ front, rfl, both _ _ (separator c separates) held⟩
  | token some_text read _ ih =>
    obtain ⟨first, -, rfl, off, -⟩ := (steady_token some_text read).split
    obtain ⟨front, rfl, held⟩ := ih fun token member => own token (List.mem_cons_of_mem _ member)
    exact ⟨first ++ front, by rw [List.append_assoc],
      both _ _ (own _ List.mem_cons_self first off) held⟩

/-- No opening parenthesis stands in a text of tokens that are neither one nor strings. -/
theorem Scans.free {text rest : List Char} {tokens : List Token} (scans : Scans text tokens rest)
    (plain : ∀ token ∈ tokens, token ≠ .mark .parenOpen ∧ token.isText = false) :
    ∃ front, text = front ++ rest ∧ '(' ∉ front := by
  refine Scans.exists_front (by simp) (fun first second free others => ?_)
    (fun c => free_of_isSeparator) scans fun token member front off => ?_
  · simp [free, others]
  · exact off.free (plain token member).1 (plain token member).2

/-- A text of tokens that are no opening parentheses is seen apart from what follows it. -/
theorem Scans.apart (view : View) {text rest : List Char} {tokens : List Token}
    (scans : Scans text tokens rest) (closed : .mark .parenOpen ∉ tokens) :
    ∃ front, text = front ++ rest ∧ view.Apart front := by
  refine Scans.exists_front (.of_free (by simp)) (fun first second apart others => ?_)
    (fun c separates => .of_free (free_of_isSeparator separates)) scans
    fun token member front off => ?_
  · exact apart.append others
  · exact off.apart view fun same => closed (same ▸ member)

/-- Whether a text goes on with no token, in view of whatever does not either. -/
def Stops (view : View) (text : List Char) : Prop :=
  ∀ rest, Breaks (view.see rest) → Breaks (view.see (text ++ rest))

/-- A text is seen as tokens in front of whatever goes on with no token. -/
def Shows (view : View) (text : List Char) (tokens : List Token) : Prop :=
  ∀ rest, Breaks (view.see rest) → Scans (view.see (text ++ rest)) tokens (view.see rest)

/-- A character that begins a text which goes on with no token. -/
def IsStop (c : Char) : Prop :=
  (isNamePart c = false ∧ c ≠ '.' ∧ c ≠ '"') ∧ c ≠ '('

instance (c : Char) : Decidable (IsStop c) :=
  inferInstanceAs (Decidable (_ ∧ _))

namespace Stops

variable {view : View} {text more : List Char}

/-- Nothing goes on with no token. -/
theorem nil : Stops view [] :=
  fun _ breaks => breaks

/-- The first character tells, unless it is a parenthesis. -/
theorem cons {c : Char} (stop : IsStop c) (text : List Char) : Stops view (c :: text) := by
  intro rest _ d first
  rw [List.cons_append, view.other _ stop.2] at first
  cases first
  exact stop.1

/-- A parenthesis that is seen goes on with no token. -/
theorem opening (opened : ∀ rest, Opened (text ++ rest)) : Stops view ('(' :: text) := by
  intro rest _ d first
  rw [List.cons_append, view.opening (opened rest)] at first
  cases first
  decide

/-- Texts that go on with no token do not either together. -/
theorem append (first : Stops view text) (second : Stops view more) :
    Stops view (text ++ more) := by
  intro rest breaks
  rw [List.append_assoc]
  exact first _ (second rest breaks)

/-- Parts that go on with no token make a text that does not either. -/
theorem flatMap {α : Type} {written : α → List Char} {items : List α}
    (stops : ∀ item ∈ items, Stops view (written item)) : Stops view (items.flatMap written) := by
  induction items with
  | nil => exact nil
  | cons item others ih =>
    rw [List.flatMap_cons]
    exact (stops item List.mem_cons_self).append
      (ih fun other member => stops other (List.mem_cons_of_mem _ member))

/-- A text goes on with no token if what stands in front does not. -/
theorem front {front : String} {c : Char} {tail : List Char} (begins : front.toList = c :: tail)
    (stop : IsStop c) (text : String) : Stops view (front ++ text).toList := by
  rw [String.toList_append, begins]
  exact cons stop _

end Stops

/-- Parts of names are characters of ASCII beyond the controls and the blank. -/
theorem bounds_of_isNamePart {c : Char} (part : isNamePart c = true) :
    0x20 < c.toNat ∧ c.toNat < 0x80 := by
  rcases Bool.or_eq_true_iff.mp part with start | digit
  · have bounds := bounds_of_isNameStart start
    omega
  · have bounds := Text.bounds_of_isDigit digit
    omega

/-- Parts of names are no blanks. -/
theorem isBlank_of_isNamePart {c : Char} (part : isNamePart c = true) : Text.isBlank c = false := by
  obtain ⟨above, below⟩ := bounds_of_isNamePart part
  -- The blanks of ASCII are below its letters and digits, and the others beyond it.
  cases blank : Text.isBlank c with
  | false => rfl
  | true =>
    have numbered : c.val.toNat = c.toNat := rfl
    simp only [Text.isBlank, Text.isWhiteSpace, Bool.or_eq_true, Bool.and_eq_true,
      decide_eq_true_eq, beq_iff_eq, Char.le_def, UInt32.le_iff_toNat_le, numbered] at blank
    simp [Char.ext_iff, ← UInt32.toNat_inj, numbered] at blank
    omega

/-- Whether a text begins with a character that is neither blank nor a closing parenthesis. -/
def Begins (text : List Char) : Prop :=
  ∃ c ∈ text.head?, Text.isBlank c = false ∧ c ≠ ')'

/-- A parenthesis in front of a text that begins with more than blanks is not dropped. -/
theorem Begins.opened {text : List Char} (begins : Begins text) (rest : List Char) :
    Opened (text ++ rest) := by
  obtain ⟨c, first, filled, other⟩ := begins
  cases text with
  | nil => cases first
  | cons d text =>
    cases first
    intro e found
    rw [List.cons_append, List.dropWhile_cons_of_neg (by simp [filled])] at found
    cases found
    exact other

/-- Names begin with more than blanks. -/
theorem begins_name {name : String} (named : isName name = true) : Begins name.toList := by
  obtain ⟨c, rest, letters, -, parts⟩ := exists_of_isName named
  have part := parts c List.mem_cons_self
  rw [letters]
  refine ⟨c, rfl, isBlank_of_isNamePart part, ?_⟩
  rintro rfl
  exact absurd part (by decide)

/-- What stands behind a text does not change how it begins. -/
theorem Begins.append {text : List Char} (begins : Begins text) (behind : List Char) :
    Begins (text ++ behind) := by
  obtain ⟨c, first, apart⟩ := begins
  refine ⟨c, ?_, apart⟩
  cases text with
  | nil => cases first
  | cons d text => exact first

/-- A parenthesis that closes on more than blanks may do so behind a part of the text. -/
theorem Opened.of_append {text more : List Char} (opened : Opened (text ++ more)) :
    Opened text := by
  intro c first
  refine opened c ?_
  obtain ⟨others, same⟩ := List.head?_eq_some_iff.mp first
  rw [List.dropWhile_append, same]
  rfl

/-- Blanks in front do not matter to a parenthesis. -/
theorem Opened.blanks {blanks text : List Char} (blank : ∀ c ∈ blanks, Text.isBlank c = true)
    (opened : Opened text) : Opened (blanks ++ text) := by
  unfold Opened
  rw [List.dropWhile_append_of_pos blank]
  exact opened

namespace Shows

variable {view : View} {text more : List Char} {tokens others : List Token}

/-- Nothing is seen as no tokens. -/
theorem nil : Shows view [] [] :=
  fun _ _ => .done _

/-- What a text without opening parentheses is written for is what it is seen as. -/
theorem of_prints (free : '(' ∉ text) (prints : Prints text tokens) : Shows view text tokens := by
  intro rest breaks
  rw [view.see_append free]
  exact prints _ breaks

/-- What is seen as tokens is these by itself. -/
theorem scans (shows : Shows view text tokens) : Scans (view.see text) tokens [] := by
  have alone := shows [] (by rw [view.nothing]; exact fun c first => nomatch first)
  rwa [List.append_nil, view.nothing] at alone

/-- Words and numbers are seen as they are written. -/
theorem of_plain (prints : Prints text tokens)
    (plain : ∀ token ∈ tokens, token ≠ .mark .parenOpen ∧ token.isText = false) :
    Shows view text tokens := by
  obtain ⟨front, parted, free⟩ := prints.scans.free plain
  rw [List.append_nil] at parted
  exact of_prints (parted ▸ free) prints

/-- A text that is seen by itself as tokens is seen as them in front of others. -/
theorem of_scans (apart : view.Apart text) (scans : Scans (view.see text) tokens []) :
    Shows view text tokens := by
  intro rest breaks
  rw [apart]
  exact scans.onward breaks

/-- A separator may stand in front. -/
theorem separator {c : Char} (separates : isSeparator c = true) (shows : Shows view text tokens) :
    Shows view (c :: text) tokens := by
  intro rest breaks
  have seen : c ≠ '(' := by
    rintro rfl
    cases separates
  rw [List.cons_append, view.other _ seen]
  exact .separator separates (shows rest breaks)

/-- A mark of one character, which is read whatever follows it. -/
theorem scans_mark {c : Char} {mark : Mark} (marked : Mark.ofChar? c = some mark)
    {rest : List Char} (scans : Scans text tokens rest) :
    Scans (c :: text) (.mark mark :: tokens) rest := by
  -- The characters of marks are neither quotes nor points.
  have quote : c ≠ '"' := by
    rintro rfl
    cases marked
  have point : c ≠ '.' := by
    rintro rfl
    cases marked
  refine .token (by simp) ?_ scans
  rw [lexToken_plain quote point, marked]

/-- A mark is seen as its character, unless it is an opening parenthesis. -/
theorem mark {c : Char} {mark : Mark} (marked : Mark.ofChar? c = some mark) (seen : c ≠ '(')
    (shows : Shows view text tokens) : Shows view (c :: text) (.mark mark :: tokens) := by
  intro rest breaks
  rw [List.cons_append, view.other _ seen]
  exact scans_mark marked (shows rest breaks)

/-- An opening parenthesis that closes on more than blanks is seen. -/
theorem opening (opened : ∀ rest, Opened (text ++ rest)) (shows : Shows view text tokens) :
    Shows view ('(' :: text) (.mark .parenOpen :: tokens) := by
  intro rest breaks
  rw [List.cons_append, view.opening (opened rest)]
  exact scans_mark rfl (shows rest breaks)

/-- What goes on with no token may stand behind another text. -/
theorem append (first : Shows view text tokens) (stops : Stops view more)
    (second : Shows view more others) : Shows view (text ++ more) (tokens ++ others) := by
  -- The second text is what the first one meets, so it has to stop in any company.
  intro rest onward
  rw [List.append_assoc]
  exact (first _ (stops rest onward)).append (second rest onward)

/-- Parts that go on with no token may stand one after the other, each seen as tokens of its own. -/
theorem flatMap {α β : Type} {written : α → List Char} {meant : β → List Token} {items : List α}
    {meanings : List β} (stops : ∀ item ∈ items, Stops view (written item))
    (shows : List.Forall₂ (fun item meaning => Shows view (written item) (meant meaning)) items
      meanings) : Shows view (items.flatMap written) (meanings.flatMap meant) := by
  -- Each part meets the ones behind it, which stop as it does.
  induction shows with
  | nil => exact nil
  | @cons item meaning others _ first _ ih =>
    have stopsOthers : ∀ other ∈ others, Stops view (written other) :=
      fun other member => stops other (List.mem_cons_of_mem _ member)
    rw [List.flatMap_cons, List.flatMap_cons]
    exact first.append (.flatMap stopsOthers) (ih stopsOthers)

/-- No opening parenthesis is part of a name. -/
theorem free_of_isName {name : String} (named : isName name = true) : '(' ∉ name.toList := by
  intro inside
  unfold isName at named
  cases letters : name.toList with
  | nil => simp [letters] at inside
  | cons c rest =>
    simp only [letters, Bool.and_eq_true, List.all_eq_true] at named inside
    rcases List.mem_cons.mp inside with rfl | later
    · exact absurd named.1 (by decide)
    · exact absurd (named.2 '(' later) (by decide)

/-- A name is seen as its characters. -/
theorem name {name : String} (named : isName name = true) :
    Shows view name.toList [.name name] :=
  of_prints (free_of_isName named) (.name named)

/-- Separators may stand in front. -/
theorem blanks {front : List Char} (blank : ∀ c ∈ front, isSeparator c = true)
    (shows : Shows view text tokens) : Shows view (front ++ text) tokens := by
  induction front with
  | nil => exact shows
  | cons c front ih =>
    exact .separator (blank c List.mem_cons_self)
      (ih fun d member => blank d (List.mem_cons_of_mem c member))

/-- Texts stand one behind the other. -/
theorem followed {first second : String} (shows : Shows view first.toList tokens)
    (stops : Stops view second.toList) (showsOthers : Shows view second.toList others) :
    Shows view (first ++ second).toList (tokens ++ others) := by
  rw [String.toList_append]
  exact shows.append stops showsOthers

/-- A text of a single mark may stand in front. -/
theorem behind {front text : String} {c : Char} {mark : Mark} (single : front.toList = [c])
    (marked : Mark.ofChar? c = some mark) (seen : c ≠ '(') (shows : Shows view text.toList tokens) :
    Shows view (front ++ text).toList (.mark mark :: tokens) := by
  rw [String.toList_append, single]
  exact .mark marked seen shows

/-- A name stands in front of a colon and what it labels. -/
theorem labelled {label : String} (named : isName label = true) {value : String}
    (shows : Shows view value.toList tokens) :
    Shows view (label ++ (": " ++ value)).toList (.name label :: .mark .colon :: tokens) := by
  -- The colon cannot go on with the name, and the blank behind it separates.
  have written : (": " ++ value).toList = ':' :: ' ' :: value.toList := by simp
  refine (name named).followed ?_ ?_ <;> rw [written]
  · exact .cons (by decide) _
  · exact .mark rfl (by decide) (.separator rfl shows)

end Shows

end AppSync.Sdl
