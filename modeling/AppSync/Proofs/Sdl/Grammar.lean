import AppSync.Proofs.Sdl.Reading

/-! The tokens that syntax trees are written in, and that the parser reads them back from. -/

namespace AppSync.Sdl

/-- Items between marks, without the marks where there are none. -/
def enclosed {α : Type} (opening close : Mark) (written : α → List Token) (items : List α) :
    List Token :=
  if items.isEmpty then [] else .mark opening :: items.flatMap written ++ [.mark close]

/-- Whether what comes next goes on with nothing that came before: no mark but a closing one. -/
def Fresh (tokens : List Token) : Prop :=
  ∀ mark, tokens.head? = some (.mark mark) → mark = .parenClose ∨ mark = .braceClose

/-- What is fresh begins with no mark but a closing one. -/
theorem Fresh.lacks {tokens : List Token} (fresh : Fresh tokens) {mark : Mark}
    (joins : mark ≠ .parenClose ∧ mark ≠ .braceClose) : Lacks mark tokens := by
  intro begins
  rcases fresh mark begins with close | close
  · exact joins.1 close
  · exact joins.2 close

/-- What is fresh goes on with no directive. -/
theorem Fresh.apart {tokens : List Token} (fresh : Fresh tokens) :
    Lacks .at tokens ∧ Lacks .parenOpen tokens :=
  ⟨fresh.lacks (by simp), fresh.lacks (by simp)⟩

variable {sure : Prop}

namespace TypeReference

/-- The tokens of a reference to a type. -/
def tokens : TypeReference → List Token
  | .named name => [.name name]
  | .list element => .mark .bracketOpen :: element.tokens ++ [.mark .bracketClose]
  | .nonNull type => type.tokens ++ [.mark .bang]

/-- Whether a reference rules null out. -/
def isNonNull : TypeReference → Bool
  | .nonNull _ => true
  | _ => false

/-- References whose lists have room and that rule null out once at each place. -/
def Fits : Nat → TypeReference → Prop
  | _, .named _ => True
  | 0, .list _ => False
  | room + 1, .list element => element.Fits room
  | room, .nonNull type => type.isNonNull = false ∧ type.Fits room

/-- The mark that rules null out, if it is there behind a reference. -/
def marked (type : TypeReference) : Parser TypeReference := do
  if ← Parser.skipMark .bang then return .nonNull type else return type

/-- A reference that rules null out has its mark. -/
theorem reads_marked (type : TypeReference) (rest : List Token) :
    Reads sure type.marked (.mark .bang :: rest) type.nonNull rest :=
  (Reads.skipMark .bang rest).bind (.of_true rfl (.pure _ _))

/-- A reference without the mark is left as it is. -/
theorem reads_marked_of_lacks (type : TypeReference) {rest : List Token}
    (lacks : Lacks .bang rest) : Reads sure type.marked rest type rest :=
  (Reads.skipMark_of_lacks lacks).bind (.of_false Bool.false_ne_true (.pure _ _))

/-- A name is read with what its mark makes of it, whether lists have room or not. -/
theorem reads_named_within {name : String} {room : Nat} {middle rest : List Token}
    {result : TypeReference} (finish : Reads sure (marked (.named name)) middle result rest) :
    Reads sure (Parser.typeWithin room) (.name name :: middle) result rest := by
  cases room with
  | zero =>
    refine (Reads.atMark_of_lacks (by simp [Lacks])).bind ?_
    exact .of_false Bool.false_ne_true ((Reads.name name _).bind finish)
  | succ room =>
    refine (Reads.skipMark_of_lacks (by simp [Lacks])).bind ?_
    refine .of_false Bool.false_ne_true ((Reads.name name _).bind ?_)
    exact (Reads.pure _ _).bind finish

/-- A list is read with what its mark makes of it, where its element is. -/
theorem reads_list_within {element : TypeReference} {limit room : Nat} {middle rest : List Token}
    {result : TypeReference} (within : sure → limit + 1 ≤ room)
    (inner : ∀ room, (sure → limit ≤ room) → ∀ rest, Lacks .bang rest →
      Reads sure (Parser.typeWithin room) (element.tokens ++ rest) element rest)
    (finish : Reads sure (marked (.list element)) middle result rest) :
    Reads sure (Parser.typeWithin room) ((list element).tokens ++ middle) result rest := by
  simp only [tokens, List.cons_append, List.append_assoc, List.nil_append]
  cases room with
  | zero =>
    -- A parser that is sure of a list has room for it.
    have unsure : ¬sure := fun holds => absurd (within holds) (by omega)
    exact (Reads.atMark .bracketOpen _).bind (.of_true rfl (.fail_bind unsure _ _ _))
  | succ room =>
    have inside : sure → limit ≤ room := fun holds => Nat.le_of_succ_le_succ (within holds)
    refine (Reads.skipMark .bracketOpen _).bind (.of_true rfl ?_)
    refine (inner room inside _ (by simp [Lacks])).bind ?_
    refine (Reads.expectMark .bracketClose middle).bind ?_
    exact (Reads.pure _ _).bind finish

/-- A reference is read by itself, and one that admits null with what its mark makes of it. -/
theorem reads_typeWithin_both {reference : TypeReference} {limit room : Nat}
    (fits : reference.Fits limit) (within : sure → limit ≤ room) :
    (∀ rest, Lacks .bang rest →
      Reads sure (Parser.typeWithin room) (reference.tokens ++ rest) reference rest) ∧
    (reference.isNonNull = false → ∀ middle result rest,
      Reads sure reference.marked middle result rest →
      Reads sure (Parser.typeWithin room) (reference.tokens ++ middle) result rest) := by
  -- Whatever admits null comes before the mark; what rules it out is read with the mark.
  induction reference generalizing limit room with
  | named name =>
    exact ⟨fun rest lacks => reads_named_within (reads_marked_of_lacks _ lacks),
      fun _ _ _ _ finish => reads_named_within finish⟩
  | list element ih =>
    cases limit with
    | zero => exact fits.elim
    | succ limit =>
      have inner (room : Nat) (inside : sure → limit ≤ room) := (ih fits inside).1
      exact ⟨fun rest lacks => reads_list_within within inner (reads_marked_of_lacks _ lacks),
        fun _ _ _ _ finish => reads_list_within within inner finish⟩
  | nonNull type ih =>
    -- The mark belongs to the reference inside, which admits null and is read with it.
    rw [Fits] at fits
    refine ⟨fun rest _ => ?_, fun nullable => Bool.noConfusion nullable⟩
    rw [tokens, List.append_assoc]
    exact (ih fits.2 within).2 fits.1 _ _ _ (reads_marked type rest)

/-- A reference that fits is read, up to what does not rule null out. -/
theorem reads_typeWithin {reference : TypeReference} {limit room : Nat}
    (fits : reference.Fits limit) (within : sure → limit ≤ room) {rest : List Token}
    (lacks : Lacks .bang rest) :
    Reads sure (Parser.typeWithin room) (reference.tokens ++ rest) reference rest :=
  (reads_typeWithin_both fits within).1 rest lacks

end TypeReference

namespace Literal

mutual
/-- The tokens of a literal. -/
def tokens : Literal → List Token
  | .variable name => [.mark .dollar, .name name]
  | .integer text => [.integer text]
  | .decimal text => [.decimal text]
  | .string value => [.string value]
  | .block value => [.block value]
  | .boolean value => [.name (if value then "true" else "false")]
  | .null => [.name "null"]
  | .enum name => [.name name]
  | .list items => .mark .bracketOpen :: itemTokens items ++ [.mark .bracketClose]
  | .object fields => .mark .braceOpen :: fieldTokens fields ++ [.mark .braceClose]

/-- The tokens of the items of a list. -/
def itemTokens : List Literal → List Token
  | [] => []
  | item :: rest => tokens item ++ itemTokens rest

/-- The tokens of the fields of an object. -/
def fieldTokens : List (String × Literal) → List Token
  | [] => []
  | (label, value) :: rest => .name label :: .mark .colon :: tokens value ++ fieldTokens rest
end

/-- The tokens of a field of an object, or of an argument of a directive. -/
def labelledTokens (field : String × Literal) : List Token :=
  .name field.1 :: .mark .colon :: field.2.tokens

/-- Items are written one after the other. -/
theorem itemTokens_eq (items : List Literal) : itemTokens items = items.flatMap tokens := by
  induction items with
  | nil => rfl
  | cons item rest ih => rw [itemTokens, ih, List.flatMap_cons]

/-- Fields are written one after the other. -/
theorem fieldTokens_eq (fields : List (String × Literal)) :
    fieldTokens fields = fields.flatMap labelledTokens := by
  induction fields with
  | nil => rfl
  | cons field rest ih => rw [fieldTokens, ih, List.flatMap_cons, labelledTokens]

mutual
/-- No literal has an opening parenthesis among its tokens. -/
theorem closed_tokens : (literal : Literal) → Token.mark .parenOpen ∉ literal.tokens
  | .variable _ | .integer _ | .decimal _ | .string _ | .block _ => by simp [tokens]
  | .boolean _ | .null | .enum _ => by simp [tokens]
  | .list items => by simp [tokens, closed_itemTokens items]
  | .object fields => by simp [tokens, closed_fieldTokens fields]

/-- Neither have the items of a list. -/
theorem closed_itemTokens : (items : List Literal) → Token.mark .parenOpen ∉ itemTokens items
  | [] => by simp [itemTokens]
  | item :: rest => by simp [itemTokens, closed_tokens item, closed_itemTokens rest]

/-- Neither have the fields of an object. -/
theorem closed_fieldTokens :
    (fields : List (String × Literal)) → Token.mark .parenOpen ∉ fieldTokens fields
  | [] => by simp [fieldTokens]
  | (_, value) :: rest => by simp [fieldTokens, closed_tokens value, closed_fieldTokens rest]
end

/-- Constants that are no collections. -/
def IsPlain : Literal → Prop
  | .variable _ => False
  | .enum name => name ∉ ["true", "false", "null"]
  | .list _ => False
  | .object _ => False
  | _ => True

/-- Constants whose collections have room. -/
def Fits : Nat → Literal → Prop
  | room + 1, .list items => ∀ item ∈ items, Fits room item
  | room + 1, .object fields => ∀ field ∈ fields, Fits room field.2
  | _, literal => literal.IsPlain

/-- A constant that is no collection needs no room. -/
theorem fits_of_isPlain {literal : Literal} (plain : literal.IsPlain) (room : Nat) :
    literal.Fits room := by
  cases literal with
  | list items => exact plain.elim
  | object fields => exact plain.elim
  | _ => cases room <;> exact plain

/-- A constant that is no collection is read. -/
theorem reads_plainLiteral {literal : Literal} (plain : literal.IsPlain) (rest : List Token) :
    Reads sure (Parser.plainLiteral true) (literal.tokens ++ rest) literal rest := by
  -- Each kind of constant is told by its token, and takes no other.
  unfold Parser.plainLiteral
  cases literal with
  | «variable» name => exact plain.elim
  | list items => exact plain.elim
  | object fields => exact plain.elim
  | integer text => exact (Reads.current _ _).bind ((Reads.advance _ _).bind (.pure _ _))
  | decimal text => exact (Reads.current _ _).bind ((Reads.advance _ _).bind (.pure _ _))
  | string value => exact (Reads.current _ _).bind ((Reads.advance _ _).bind (.pure _ _))
  | block value => exact (Reads.current _ _).bind ((Reads.advance _ _).bind (.pure _ _))
  | null => exact (Reads.current _ _).bind ((Reads.advance _ _).bind (.pure _ _))
  | boolean value =>
    cases value with
    | true => exact (Reads.current _ _).bind ((Reads.advance _ _).bind (.pure _ _))
    | false => exact (Reads.current _ _).bind ((Reads.advance _ _).bind (.pure _ _))
  | enum name =>
    -- An enum value is none of the words that stand for other constants.
    have word : Parser.wordLiteral name = .enum name := by
      simp only [IsPlain, List.mem_cons, List.not_mem_nil, or_false, not_or] at plain
      simp [Parser.wordLiteral, plain]
    refine (Reads.current (.name name) rest).bind ?_
    refine (Reads.advance _ _).bind ?_
    rw [word]
    exact .pure _ _

/-- A constant that is no collection begins with no mark. -/
theorem lacks_of_isPlain {literal : Literal} (plain : literal.IsPlain) (mark : Mark)
    (rest : List Token) : Lacks mark (literal.tokens ++ rest) := by
  cases literal with
  | «variable» name => exact plain.elim
  | list items => exact plain.elim
  | object fields => exact plain.elim
  | _ => simp [Lacks, tokens]

/-- Constants begin with no mark that closes, and with no colon. -/
theorem lacks_of_fits {literal : Literal} {room : Nat} (fits : literal.Fits room) {mark : Mark}
    (closes : mark ≠ .bracketOpen ∧ mark ≠ .braceOpen) (rest : List Token) :
    Lacks mark (literal.tokens ++ rest) := by
  -- A collection begins with its own opening mark, and any other constant with no mark.
  cases literal with
  | list items => simpa [Lacks, tokens] using Ne.symm closes.1
  | object fields => simpa [Lacks, tokens] using Ne.symm closes.2
  | _ =>
    cases room <;> exact lacks_of_isPlain fits mark rest

/-- Fields are read one after the other if their values are. -/
theorem listed_labelled {close : Mark} {parser : Parser Literal} {fields : List (String × Literal)}
    (reads : ∀ field ∈ fields, ∀ rest, Reads sure parser (field.2.tokens ++ rest) field.2 rest) :
    Listed sure close (Parser.labelled parser) labelledTokens (fun _ => True) fields where
  closes _ := trivial
  begins field _ rest := ⟨by simp [Lacks, labelledTokens], trivial⟩
  reads field member rest _ := Reads.labelled field.1 (reads field member rest)

/-- A constant that is no collection is read, whether collections have room or not. -/
theorem reads_literalWithin_plain {literal : Literal} (plain : literal.IsPlain) (room : Nat)
    (rest : List Token) :
    Reads sure (Parser.literalWithin true room) (literal.tokens ++ rest) literal rest := by
  -- It lacks both of the opening marks.
  have bracket := lacks_of_isPlain plain .bracketOpen rest
  have brace := lacks_of_isPlain plain .braceOpen rest
  cases room with
  | zero =>
    refine (Reads.atMark_of_lacks bracket).bind ((Reads.atMark_of_lacks brace).bind ?_)
    exact .of_false Bool.false_ne_true (reads_plainLiteral plain rest)
  | succ room =>
    refine (Reads.atMark_of_lacks bracket).bind (.of_false Bool.false_ne_true ?_)
    refine (Reads.atMark_of_lacks brace).bind (.of_false Bool.false_ne_true ?_)
    exact reads_plainLiteral plain rest

/-- A constant that fits is read, whatever follows it. -/
theorem reads_literalWithin {limit room : Nat} {literal : Literal} (fits : literal.Fits limit)
    (within : sure → limit ≤ room) (rest : List Token) :
    Reads sure (Parser.literalWithin true room) (literal.tokens ++ rest) literal rest := by
  -- The items of a collection have less room, and without room the parser is not sure of it.
  induction limit generalizing room literal rest with
  | zero =>
    have plain : literal.IsPlain := by cases literal <;> exact fits
    exact reads_literalWithin_plain plain room rest
  | succ limit ih =>
    have unsure (none : room = 0) : ¬sure := fun holds => absurd (within holds) (by omega)
    have inner {less : Nat} (one : room = less + 1) (holds : sure) : limit ≤ less := by
      have enough := within holds
      omega
    cases literal with
    | list items =>
      simp only [tokens, itemTokens_eq, List.cons_append, List.append_assoc, List.nil_append]
      cases room with
      | zero =>
        refine (Reads.atMark .bracketOpen _).bind ?_
        refine (Reads.atMark_of_lacks (by simp [Lacks])).bind ?_
        exact .of_true rfl (.fail (unsure rfl) _)
      | succ room =>
        have listed : Listed sure .bracketClose (Parser.literalWithin true room) tokens
            (fun _ => True) items :=
          ⟨fun _ => trivial,
            fun item member rest => ⟨lacks_of_fits (fits item member) (by simp) rest, trivial⟩,
            fun item member rest _ => ih (fits item member) (inner rfl) rest⟩
        refine (Reads.atMark .bracketOpen _).bind (.of_true rfl ?_)
        exact (listed.any .bracketOpen rest).bind (.pure _ _)
    | object fields =>
      simp only [tokens, fieldTokens_eq, List.cons_append, List.append_assoc, List.nil_append]
      cases room with
      | zero =>
        refine (Reads.atMark_of_lacks (by simp [Lacks])).bind ?_
        refine (Reads.atMark .braceOpen _).bind ?_
        exact .of_true rfl (.fail (unsure rfl) _)
      | succ room =>
        have listed : Listed sure .braceClose (Parser.labelled (Parser.literalWithin true room))
            labelledTokens (fun _ => True) fields :=
          listed_labelled fun field member rest => ih (fits field member) (inner rfl) rest
        refine (Reads.atMark_of_lacks (by simp [Lacks])).bind (.of_false Bool.false_ne_true ?_)
        refine (Reads.atMark .braceOpen _).bind (.of_true rfl ?_)
        exact (listed.any .braceOpen rest).bind (.pure _ _)
    | _ => exact reads_literalWithin_plain fits room rest

end Literal

namespace Applied

/-- The tokens of a directive as it is used. -/
def tokens (applied : Annotation) : List Token :=
  .mark .at :: .name applied.name ::
    enclosed .parenOpen .parenClose Literal.labelledTokens applied.arguments

/-- Directives whose arguments are constants with room. -/
def Fits (applied : Annotation) : Prop :=
  ∀ argument ∈ applied.arguments, argument.2.Fits Parser.nestingLimit

/-- Directives begin with their sign, or there are none. -/
theorem lacks_flatMap {mark : Mark} (other : mark ≠ .at) (annotations : List Annotation)
    {rest : List Token} (lacks : Lacks mark rest) :
    Lacks mark (annotations.flatMap tokens ++ rest) := by
  -- Only the first directive counts, if there is one.
  cases annotations with
  | nil => exact lacks
  | cons first others => simpa [Lacks, tokens] using Ne.symm other

/-- Directives are read with fuel for each of them, up to what is neither one nor an argument. -/
theorem reads_annotationsFrom {annotations : List Annotation}
    (fits : ∀ applied ∈ annotations, Applied.Fits applied) {rest : List Token}
    (apart : Lacks .at rest ∧ Lacks .parenOpen rest) {fuel : Nat}
    (enough : annotations.length < fuel) :
    Reads sure (Parser.annotationsFrom true Parser.nestingLimit fuel)
      (annotations.flatMap tokens ++ rest) annotations rest := by
  -- One directive takes one of the fuel, and the end takes one as well.
  induction annotations generalizing fuel with
  | nil =>
    cases fuel with
    | zero => omega
    | succ fuel =>
      refine (Reads.skipMark_of_lacks apart.1).bind ?_
      exact .of_false Bool.false_ne_true (.pure _ _)
  | cons first others ih =>
    cases fuel with
    | zero => omega
    | succ fuel =>
      have fewer : others.length < fuel := by
        rw [List.length_cons] at enough
        omega
      have listed : Listed sure .parenClose (Parser.labelled Parser.constant)
          Literal.labelledTokens (fun _ => True) first.arguments :=
        Literal.listed_labelled fun argument member rest =>
          Literal.reads_literalWithin (fits first List.mem_cons_self argument member)
            (fun _ => Nat.le_refl _) rest
      -- An argument list that is not there is not taken from what follows.
      have unopened : Lacks .parenOpen (others.flatMap tokens ++ rest) :=
        lacks_flatMap (by simp) others apart.2
      rw [List.flatMap_cons, tokens, List.append_assoc, List.cons_append, List.cons_append]
      refine (Reads.skipMark .at _).bind (.of_true rfl ?_)
      refine (Reads.name first.name _).bind ?_
      refine (listed.optionalMany fun _ => unopened).bind ?_
      refine (ih (fun applied member => fits applied (List.mem_cons_of_mem _ member)) fewer).bind ?_
      exact .pure _ _

/-- Directives are read, up to what is neither another one nor an argument. -/
theorem reads_annotations {annotations : List Annotation}
    (fits : ∀ applied ∈ annotations, Applied.Fits applied) {rest : List Token}
    (apart : Lacks .at rest ∧ Lacks .parenOpen rest) :
    Reads sure (Parser.annotations true) (annotations.flatMap tokens ++ rest) annotations rest := by
  refine reads_annotationsFrom fits apart ?_
  -- The sign alone is a token for each directive, so the number of tokens is fuel enough.
  have length_le : annotations.length ≤ (annotations.flatMap tokens).length :=
    length_le_flatMap fun applied _ empty => by simp [tokens] at empty
  rw [List.length_append]
  omega

end Applied

end AppSync.Sdl
