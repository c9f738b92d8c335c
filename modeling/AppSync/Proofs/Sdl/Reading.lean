import AppSync.Sdl.Parser

/-! What a parser reads of tokens, none of which is a fault, and what it leaves. -/

namespace AppSync.Sdl

/-- Whether a token is a fault of the text. -/
def Token.isFault : Token → Bool
  | .invalid _ => true
  | _ => false

/-- Tokens without a fault among them. -/
def Clean (tokens : List Token) : Prop :=
  ∀ token ∈ tokens, token.isFault = false

/-- The tokens behind the first of clean ones are clean. -/
theorem Clean.tail {token : Token} {rest : List Token} (clean : Clean (token :: rest)) :
    Clean rest :=
  fun found member => clean found (List.mem_cons_of_mem token member)

/-- Whether the current one of tokens is another than a mark. -/
def Lacks (mark : Mark) (tokens : List Token) : Prop :=
  tokens.head? ≠ some (.mark mark)

/--
A parser reads a value off clean tokens, up to the rest of them; where it is not sure to, it may
give up instead, but it reads no other value.
-/
def Reads {α : Type} (sure : Prop) (parser : Parser α) (tokens : List Token) (value : α)
    (rest : List Token) : Prop :=
  Clean tokens → (parser tokens = .ok (value, rest) ∧ Clean rest) ∨
    (¬sure ∧ ∃ fault, parser tokens = .error fault)

namespace Reads

variable {α β : Type} {sure : Prop} {parser : Parser α} {tokens middle rest : List Token}
  {value : α}

/-- A parser that is sure to read a value reads it. -/
theorem run (reads : Reads True parser tokens value rest) (clean : Clean tokens) :
    parser tokens = .ok (value, rest) ∧ Clean rest :=
  (reads clean).resolve_right fun given_up => given_up.1 trivial

/-- A value that is there already leaves all tokens. -/
theorem pure (value : α) (tokens : List Token) : Reads sure (Pure.pure value) tokens value tokens :=
  fun clean => .inl ⟨rfl, clean⟩

/-- A parser that goes on reads what the first one leaves. -/
theorem bind {next : α → Parser β} {result : β} (first : Reads sure parser tokens value middle)
    (second : Reads sure (next value) middle result rest) :
    Reads sure (parser >>= next) tokens result rest := by
  intro clean
  -- A parser is a function of the tokens, so that its bind goes through the results.
  change ((parser tokens >>= fun found => next found.1 found.2) = _ ∧ _) ∨
    (_ ∧ ∃ fault, (parser tokens >>= fun found => next found.1 found.2) = _)
  rcases first clean with ⟨read, cleanMiddle⟩ | ⟨unsure, fault, given_up⟩
  · -- What the first parser leaves is clean, which the second one asks for.
    rw [read]
    exact second cleanMiddle
  · rw [given_up]
    exact .inr ⟨unsure, fault, rfl⟩

/-- A parser that is not sure may give up. -/
theorem fail (unsure : ¬sure) (fault : GrammarFault) :
    Reads sure (Parser.fail fault) tokens value rest :=
  fun _ => .inr ⟨unsure, fault, rfl⟩

/-- It may do so whatever would have come next. -/
theorem fail_bind (unsure : ¬sure) (fault : GrammarFault) (next : α → Parser β) (result : β) :
    Reads sure (Parser.fail fault >>= next) tokens result rest :=
  fun _ => .inr ⟨unsure, fault, rfl⟩

/-- The current token is looked at. -/
theorem current (token : Token) (rest : List Token) :
    Reads sure Parser.current (token :: rest) token (token :: rest) :=
  fun clean => .inl ⟨rfl, clean⟩

/-- The current token is passed over. -/
theorem advance (token : Token) (rest : List Token) :
    Reads sure Parser.advance (token :: rest) () rest := by
  intro clean
  refine .inl ⟨?_, clean.tail⟩
  -- The token behind it is no fault.
  cases rest with
  | nil => rfl
  | cons next others =>
    cases next with
    | invalid fault =>
      have fault := clean (.invalid fault) (by simp)
      cases fault
    | _ => rfl

/-- The token behind the current one is looked at. -/
theorem lookahead (token next : Token) (rest : List Token) :
    Reads sure Parser.lookahead (token :: next :: rest) next (token :: next :: rest) := by
  intro clean
  refine .inl ⟨?_, clean⟩
  -- Only a fault would stop the look, and none is among the tokens.
  cases next with
  | invalid fault =>
    have fault := clean (.invalid fault) (by simp)
    cases fault
  | _ => rfl

/-- The first of two parsers is used where the condition holds. -/
theorem of_true {condition : Prop} [Decidable condition] {other : Parser α} (holds : condition)
    (reads : Reads sure parser tokens value rest) :
    Reads sure (if condition then parser else other) tokens value rest := by
  rwa [if_pos holds]

/-- The second of two parsers is used where the condition fails. -/
theorem of_false {condition : Prop} [Decidable condition] {other : Parser α} (fails : ¬condition)
    (reads : Reads sure parser tokens value rest) :
    Reads sure (if condition then other else parser) tokens value rest := by
  rwa [if_neg fails]

/-- A mark is seen where it is current. -/
theorem atMark (mark : Mark) (rest : List Token) :
    Reads sure (Parser.atMark mark) (.mark mark :: rest) true (.mark mark :: rest) := by
  have seen : (Token.mark mark == .mark mark) = true := beq_self_eq_true _
  exact seen ▸ (current _ rest).bind (pure _ _)

/-- A mark is not seen where another token is current. -/
theorem atMark_of_lacks {mark : Mark} (lacks : Lacks mark tokens) :
    Reads sure (Parser.atMark mark) tokens false tokens := by
  intro clean
  refine .inl ⟨?_, clean⟩
  -- Behind the last token stands the end of the document, which is no mark.
  have other : tokens.headD .finish ≠ .mark mark := by
    cases tokens with
    | nil => simp
    | cons token rest => simpa [Lacks] using lacks
  change Except.ok (tokens.headD .finish == .mark mark, tokens) = _
  rw [beq_eq_false_iff_ne.mpr other]

/-- A mark that has to be there is passed over. -/
theorem expectMark (mark : Mark) (rest : List Token) :
    Reads sure (Parser.expectMark mark) (.mark mark :: rest) () rest :=
  (current _ rest).bind (of_true rfl (advance _ rest))

/-- A mark that is there is skipped. -/
theorem skipMark (mark : Mark) (rest : List Token) :
    Reads sure (Parser.skipMark mark) (.mark mark :: rest) true rest :=
  (atMark mark rest).bind (of_true rfl ((advance _ rest).bind (pure _ _)))

/-- Another token than a mark is not skipped. -/
theorem skipMark_of_lacks {mark : Mark} (lacks : Lacks mark tokens) :
    Reads sure (Parser.skipMark mark) tokens false tokens :=
  (atMark_of_lacks lacks).bind (of_false Bool.false_ne_true (pure _ _))

/-- A word that has to be there is passed over. -/
theorem expectWord (word : String) (rest : List Token) :
    Reads sure (Parser.expectWord word) (.name word :: rest) () rest :=
  (current _ rest).bind (of_true rfl (advance _ rest))

/-- Another token than a word is not skipped. -/
theorem skipWord_of_ne {word : String} (apart : tokens.head? ≠ some (.name word)) :
    Reads sure (Parser.skipWord word) tokens false tokens := by
  have looked : Reads sure Parser.current tokens (tokens.headD .finish) tokens :=
    fun clean => .inl ⟨rfl, clean⟩
  -- Behind the last token stands the end of the document, which is no word.
  have other : tokens.headD .finish ≠ .name word := by
    cases tokens with
    | nil => simp
    | cons token rest => simpa using apart
  exact looked.bind (of_false other (pure _ _))

/-- A name is read. -/
theorem name (text : String) (rest : List Token) :
    Reads sure Parser.name (.name text :: rest) text rest :=
  (current _ rest).bind ((advance _ rest).bind (pure _ _))

/-- A name, a colon and what follows it are read. -/
theorem labelled {item : Parser α} (label : String)
    (reads : Reads sure item tokens value rest) :
    Reads sure (Parser.labelled item) (.name label :: .mark .colon :: tokens) (label, value) rest :=
  (name label _).bind ((expectMark .colon tokens).bind (reads.bind (pure _ _)))

end Reads

/-- Where each item has a token, there are no more items than tokens. -/
theorem length_le_flatMap {α : Type} {written : α → List Token} {items : List α}
    (some_token : ∀ item ∈ items, written item ≠ []) :
    items.length ≤ (items.flatMap written).length := by
  induction items with
  | nil => exact Nat.le_refl 0
  | cons item others ih =>
    have positive := List.length_pos_iff.mpr (some_token item List.mem_cons_self)
    have others_le := ih fun other member => some_token other (List.mem_cons_of_mem item member)
    rw [List.flatMap_cons, List.length_append, List.length_cons]
    omega

/-- Items that are read one after the other, up to a closing mark that none of them begins with. -/
structure Listed {α : Type} (sure : Prop) (close : Mark) (parser : Parser α)
    (written : α → List Token) (follows : List Token → Prop) (items : List α) : Prop where
  closes : ∀ rest, follows (.mark close :: rest)
  begins : ∀ item ∈ items, ∀ rest,
    Lacks close (written item ++ rest) ∧ follows (written item ++ rest)
  reads : ∀ item ∈ items, ∀ rest, follows rest →
    Reads sure parser (written item ++ rest) item rest

namespace Listed

variable {α : Type} {sure : Prop} {close : Mark} {parser : Parser α} {written : α → List Token}
  {follows : List Token → Prop} {items : List α}

/-- The items behind the first are listed too. -/
theorem tail {first : α} (listed : Listed sure close parser written follows (first :: items)) :
    Listed sure close parser written follows items :=
  ⟨listed.closes, fun item member => listed.begins item (List.mem_cons_of_mem first member),
    fun item member => listed.reads item (List.mem_cons_of_mem first member)⟩

/-- What comes behind an item may follow it. -/
theorem follows_rest (listed : Listed sure close parser written follows items) (rest : List Token) :
    follows (items.flatMap written ++ .mark close :: rest) := by
  -- What comes behind is either the closing mark or the next item.
  cases items with
  | nil => exact listed.closes rest
  | cons item others =>
    rw [List.flatMap_cons, List.append_assoc]
    exact (listed.begins item List.mem_cons_self _).2

/-- Every item takes a token: without one it would be taken for the closing mark behind it. -/
theorem length_le (listed : Listed sure close parser written follows items) :
    items.length ≤ (items.flatMap written).length := by
  refine length_le_flatMap fun item member empty => ?_
  apply (listed.begins item member [.mark close]).1
  rw [empty]
  rfl

/-- Items are read up to their closing mark. -/
theorem untilMark (listed : Listed sure close parser written follows items) {fuel : Nat}
    (enough : items.length < fuel) (rest : List Token) :
    Reads sure (Parser.untilMark close parser fuel)
      (items.flatMap written ++ .mark close :: rest) items rest := by
  -- One unit of fuel is for each item, and one more for the closing mark.
  induction items generalizing fuel with
  | nil =>
    cases fuel with
    | zero => omega
    | succ fuel => exact (Reads.skipMark close rest).bind (.of_true rfl (.pure _ _))
  | cons item others ih =>
    cases fuel with
    | zero => omega
    | succ fuel =>
      rw [List.flatMap_cons, List.append_assoc]
      unfold Parser.untilMark
      have fewer : others.length < fuel := by
        rw [List.length_cons] at enough
        omega
      -- The item is not taken for the closing mark; behind it stands what may follow an item.
      refine .bind (.skipMark_of_lacks (listed.begins item List.mem_cons_self _).1) ?_
      refine .of_false Bool.false_ne_true ?_
      refine .bind (listed.reads item List.mem_cons_self _ (listed.tail.follows_rest rest)) ?_
      exact (ih listed.tail fewer).bind (.pure _ _)

/-- The number of tokens is fuel enough. -/
theorem closedBy (listed : Listed sure close parser written follows items) (rest : List Token) :
    Reads sure (Parser.closedBy close parser) (items.flatMap written ++ .mark close :: rest) items
      rest := by
  -- The closing mark is a token too, so that there are more tokens than items.
  have fewer := listed.length_le
  refine listed.untilMark ?_ rest
  rw [List.length_append, List.length_cons]
  omega

/-- Items between marks are read. -/
theorem any (listed : Listed sure close parser written follows items) (opening : Mark)
    (rest : List Token) :
    Reads sure (Parser.any opening close parser)
      (.mark opening :: items.flatMap written ++ .mark close :: rest) items rest :=
  (Reads.expectMark opening _).bind (listed.closedBy rest)

/-- Items between marks, of which there is one, are read. -/
theorem many {first : α} (listed : Listed sure close parser written follows (first :: items))
    (opening : Mark) (rest : List Token) :
    Reads sure (Parser.many opening close parser)
      (.mark opening :: (first :: items).flatMap written ++ .mark close :: rest) (first :: items)
      rest := by
  -- The first item is read by itself, and the others up to the closing mark.
  rw [List.flatMap_cons, List.cons_append, List.append_assoc]
  refine (Reads.expectMark opening _).bind ?_
  refine (listed.reads first List.mem_cons_self _ (listed.tail.follows_rest rest)).bind ?_
  exact (listed.tail.closedBy rest).bind (.pure _ _)

/-- Items between marks are read, or none where the opening mark is not there. -/
theorem optionalMany (listed : Listed sure close parser written follows items) {opening : Mark}
    {rest : List Token} (lacks : items = [] → Lacks opening rest) :
    Reads sure (Parser.optionalMany opening close parser)
      ((if items.isEmpty then [] else .mark opening :: items.flatMap written ++ [.mark close]) ++
        rest) items rest := by
  -- The opening mark tells whether there are any items.
  cases items with
  | nil => exact (Reads.atMark_of_lacks (lacks rfl)).bind (.of_false Bool.false_ne_true (.pure _ _))
  | cons first others =>
    have read := listed.many opening rest
    simp only [List.isEmpty_cons, Bool.false_eq_true, if_false, List.cons_append,
      List.append_assoc, List.nil_append] at read ⊢
    exact (Reads.atMark opening _).bind (.of_true rfl read)

end Listed

/-- Further names are read, each behind a delimiter. -/
theorem Reads.delimitedRest {sure : Prop} {delimiter : Mark} {rest : List Token}
    (lacks : Lacks delimiter rest)
    (names : List String) {fuel : Nat} (enough : names.length < fuel) :
    Reads sure (Parser.delimitedRest delimiter Parser.name fuel)
      (names.flatMap (fun name => [.mark delimiter, .name name]) ++ rest) names rest := by
  -- One unit of fuel is for each name, and one more for the delimiter that lacks.
  induction names generalizing fuel with
  | nil =>
    cases fuel with
    | zero => omega
    | succ fuel =>
      exact (skipMark_of_lacks lacks).bind (.of_false Bool.false_ne_true (.pure _ _))
  | cons first others ih =>
    cases fuel with
    | zero => omega
    | succ fuel =>
      have fewer : others.length < fuel := by
        rw [List.length_cons] at enough
        omega
      refine (skipMark delimiter _).bind (.of_true rfl ?_)
      exact (name first _).bind ((ih fewer).bind (.pure _ _))

/-- Names are read with delimiters between them. -/
theorem Reads.delimited {sure : Prop} {delimiter : Mark} {rest : List Token}
    (lacks : Lacks delimiter rest)
    (first : String) (others : List String) :
    Reads sure (Parser.delimited delimiter Parser.name)
      (.name first :: others.flatMap (fun name => [.mark delimiter, .name name]) ++ rest)
      (first :: others) rest := by
  rw [List.cons_append]
  -- No delimiter stands in front of the first name.
  refine (skipMark_of_lacks (by simp [Lacks])).bind ?_
  refine (name first _).bind ?_
  refine bind ?_ (.pure _ _)
  refine delimitedRest lacks others ?_
  -- Each further name takes two tokens.
  rw [List.length_append, List.length_flatMap]
  simp only [List.length_cons, List.length_nil, List.map_const', List.sum_replicate_nat]
  omega

end AppSync.Sdl
