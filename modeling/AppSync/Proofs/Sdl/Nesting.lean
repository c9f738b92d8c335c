import AppSync.Proofs.Sdl.Definition

/-! Types that are nested deeper than the parser has room for are refused. -/

namespace AppSync.Sdl

/-- A parser gives up on clean tokens with a fault. -/
def Refuses {α : Type} (parser : Parser α) (tokens : List Token) (fault : GrammarFault) : Prop :=
  Clean tokens → parser tokens = .error fault

namespace Refuses

variable {α β : Type} {parser : Parser α} {next : α → Parser β} {tokens middle : List Token}
  {value : α} {fault : GrammarFault}

/-- What goes on with a parser that gives up gives up too. -/
theorem bind (refuses : Refuses parser tokens fault) : Refuses (parser >>= next) tokens fault := by
  intro clean
  change (parser tokens >>= fun found => next found.1 found.2) = _
  rw [refuses clean]
  rfl

/-- A parser gives up where what goes on with it does. -/
theorem after (reads : Reads True parser tokens value middle)
    (refuses : Refuses (next value) middle fault) : Refuses (parser >>= next) tokens fault := by
  intro clean
  -- What has been read leaves clean tokens to the parser that gives up.
  obtain ⟨read, cleanMiddle⟩ := reads.run clean
  change (parser tokens >>= fun found => next found.1 found.2) = _
  rw [read]
  exact refuses cleanMiddle

/-- The first of two parsers gives up where the condition holds. -/
theorem of_true {condition : Prop} [Decidable condition] {other : Parser α} (holds : condition)
    (refuses : Refuses parser tokens fault) :
    Refuses (if condition then parser else other) tokens fault := by
  rwa [if_pos holds]

/-- The second of two parsers gives up where the condition fails. -/
theorem of_false {condition : Prop} [Decidable condition] {other : Parser α} (fails : ¬condition)
    (refuses : Refuses parser tokens fault) :
    Refuses (if condition then other else parser) tokens fault := by
  rwa [if_neg fails]

end Refuses

/-- How many lists stand in one another in a reference. -/
def TypeReference.depth : TypeReference → Nat
  | .named _ => 0
  | .list element => element.depth + 1
  | .nonNull type => type.depth

/-- A reference with more lists in one another than there is room for is refused. -/
theorem refuses_typeWithin {reference : TypeReference} {room : Nat} (deep : room < reference.depth)
    (rest : List Token) :
    Refuses (Parser.typeWithin room) (reference.tokens ++ rest) .nestedTooDeeply := by
  -- A list takes one of the room and of the depth; a mark behind it takes none.
  induction reference generalizing room rest with
  | named name => simp [TypeReference.depth] at deep
  | nonNull type ih =>
    rw [TypeReference.tokens, List.append_assoc]
    exact ih deep _
  | list element ih =>
    simp only [TypeReference.tokens, List.cons_append, List.append_assoc, List.nil_append]
    cases room with
    | zero => exact .after (.atMark .bracketOpen _) (.of_true rfl (.bind fun _ => rfl))
    | succ room =>
      rw [TypeReference.depth] at deep
      refine .after (.skipMark .bracketOpen _) (.of_true rfl (.bind ?_))
      exact ih (by omega) _

/-- A field whose type is nested too deeply is refused. -/
theorem refuses_fieldDefinition {reference : TypeReference}
    (deep : Parser.nestingLimit < reference.depth) (label : String) (rest : List Token) :
    Refuses Parser.fieldDefinition (.name label :: .mark .colon :: reference.tokens ++ rest)
      .nestedTooDeeply := by
  -- A field without description and arguments comes to its type at once.
  refine .after (Reads.description none _ rfl) (.after (.name label _) ?_)
  refine .after ((Reads.atMark_of_lacks (by simp [Lacks])).bind
    (.of_false Bool.false_ne_true (.pure _ _))) ?_
  exact .after (.expectMark .colon _) (.bind (refuses_typeWithin deep rest))

/-- A document is refused if the first field of its first type is nested too deeply. -/
theorem parse_eq_error {reference : TypeReference} (deep : Parser.nestingLimit < reference.depth)
    {label field : String} {rest : List Token} {text : List Char}
    (lexed : lex text = .name "type" :: .name label :: .mark .braceOpen :: .name field ::
      .mark .colon :: reference.tokens ++ rest)
    (clean : Clean (.name "type" :: .name label :: .mark .braceOpen :: .name field ::
      .mark .colon :: reference.tokens ++ rest)) :
    parse text = .error .nestedTooDeeply := by
  -- The first definition is an object whose first field has the type.
  have content (tokens : List Token) (refuses : Refuses Parser.fieldDefinition tokens
      .nestedTooDeeply) : Refuses (Parser.typeContent "type")
        (.name "type" :: .name label :: .mark .braceOpen :: tokens) .nestedTooDeeply := by
    refine .after (.expectWord "type" _) (.after (.name label _) ?_)
    refine .after (TypeContent.reads_interfaces (by simp)) ?_
    refine .after (@Applied.reads_annotations True [] (fun _ none => nomatch none) _
      ⟨by simp [Lacks], by simp [Lacks]⟩) ?_
    refine .bind (.after (.atMark .braceOpen _) (.of_true rfl ?_))
    exact .after (.expectMark .braceOpen _) (.bind refuses)
  -- The fault goes through all that would have been parsed behind it.
  have definitions (fuel : Nat) : Refuses (Parser.definitions (fuel + 1))
      (.name "type" :: .name label :: .mark .braceOpen :: .name field :: .mark .colon ::
        reference.tokens ++ rest) .nestedTooDeeply := by
    refine .bind (.after (.atMark_of_lacks (by simp [Lacks])) ?_)
    refine .of_false Bool.false_ne_true (.after (.current _ _) (.after (.current _ _) ?_))
    refine .of_false (by simp [Parser.isDescription]) (.of_true (by decide) ?_)
    refine .after (Reads.description none _ rfl) (.bind ?_)
    exact content _ (refuses_fieldDefinition deep field rest)
  have refused := definitions (lex text).length clean
  unfold parse
  rw [lexed] at refused ⊢
  exact congrArg (Except.map fun found => found.1) refused

end AppSync.Sdl
