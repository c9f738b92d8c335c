import AppSync.Proofs.Sdl.Grammar

/-! The tokens of the definitions in a schema document, and that they are read back. -/

namespace AppSync.Sdl

variable {sure : Prop} {room : Nat}

/-- The token of a description, which is written as a block string. -/
def descriptionTokens (description : Option String) : List Token :=
  (description.map Token.block).toList

/-- A description is read off what begins no description itself. -/
theorem Reads.description (description : Option String) {token : Token} (rest : List Token)
    (other : Parser.isDescription token = false) :
    Reads sure Parser.description (descriptionTokens description ++ token :: rest) description
      (token :: rest) := by
  unfold Parser.description
  -- A description that is there is told by its token; one that is not needs another token.
  cases description with
  | some value => exact (current (.block value) _).bind ((advance _ _).bind (pure _ _))
  | none =>
    refine (current token rest).bind ?_
    cases token with
    | string value => cases other
    | block value => cases other
    | _ => exact pure _ _

/-- The tokens of a default behind its sign. -/
def defaultTokens (default : Option Literal) : List Token :=
  match default with
  | none => []
  | some literal => .mark .equals :: literal.tokens

/-- A default is read if it is there. -/
theorem Reads.default {default : Option Literal} (fits : ∀ literal ∈ default, literal.Fits room)
    (within : sure → room ≤ Parser.nestingLimit) {rest : List Token} (lacks : Lacks .equals rest) :
    Reads sure Parser.default (defaultTokens default ++ rest) default rest := by
  unfold Parser.default
  -- The sign tells whether there is a default.
  cases default with
  | none => exact (skipMark_of_lacks lacks).bind (of_false Bool.false_ne_true (pure _ _))
  | some literal =>
    refine (skipMark .equals _).bind (of_true rfl ?_)
    exact (Literal.reads_literalWithin (fits literal rfl) within rest).bind (pure _ _)

/-- What begins a definition inside braces or parentheses: a description or a name. -/
theorem fresh_described (description : Option String) (name : String) (rest : List Token) :
    Fresh (descriptionTokens description ++ .name name :: rest) := by
  intro mark begins
  cases description <;> simp [descriptionTokens] at begins

/-- Items that begin with a description or a name are read one after the other. -/
theorem listed_described {α : Type} {close : Mark}
    (closes : close = .parenClose ∨ close = .braceClose) {parser : Parser α}
    {written : α → List Token} {items : List α}
    (begins : ∀ item ∈ items, ∃ description name tail,
      written item = descriptionTokens description ++ .name name :: tail)
    (reads : ∀ item ∈ items, ∀ rest, Fresh rest →
      Reads sure parser (written item ++ rest) item rest) :
    Listed sure close parser written Fresh items where
  closes rest := fun mark found => by
    cases found
    exact closes
  begins item member rest := by
    -- Neither a description nor a name is a closing mark.
    obtain ⟨description, name, tail, same⟩ := begins item member
    rw [same, List.append_assoc]
    refine ⟨?_, fresh_described description name _⟩
    cases description <;> simp [Lacks, descriptionTokens]
  reads := reads

namespace InputDefinition

/-- The tokens of an argument of a definition, or of a field of an input. -/
def tokens (definition : InputDefinition) : List Token :=
  descriptionTokens definition.description ++ .name definition.name :: .mark .colon ::
    definition.type.tokens ++ defaultTokens definition.default ++
      definition.annotations.flatMap Applied.tokens

/-- Definitions of inputs whose parts have room. -/
structure Fits (definition : InputDefinition) (room : Nat) : Prop where
  type : definition.type.Fits room
  default : ∀ literal ∈ definition.default, literal.Fits room
  annotations : ∀ applied ∈ definition.annotations, Applied.Fits applied

/-- The definition of an input is read, up to what is fresh. -/
theorem reads {definition : InputDefinition} (fits : definition.Fits room)
    (within : sure → room ≤ Parser.nestingLimit) {rest : List Token} (fresh : Fresh rest) :
    Reads sure Parser.inputDefinition (definition.tokens ++ rest) definition rest := by
  have annotated (mark : Mark) (other : mark ≠ .at)
      (joins : mark ≠ .parenClose ∧ mark ≠ .braceClose) :
      Lacks mark (definition.annotations.flatMap Applied.tokens ++ rest) :=
    Applied.lacks_flatMap other _ (fresh.lacks joins)
  have typed : Lacks .bang (defaultTokens definition.default ++
      (definition.annotations.flatMap Applied.tokens ++ rest)) := by
    cases definition.default with
    | none => exact annotated .bang (by simp) (by simp)
    | some literal => simp [defaultTokens, Lacks]
  -- Behind the default stand directives and what is fresh, and behind the type these or the default.
  simp only [tokens, List.append_assoc, List.cons_append]
  refine (Reads.description _ _ rfl).bind ?_
  refine (Reads.labelled _ (TypeReference.reads_typeWithin fits.type within typed)).bind ?_
  refine (Reads.default fits.default within (annotated .equals (by simp) (by simp))).bind ?_
  exact (Applied.reads_annotations fits.annotations fresh.apart).bind (.pure _ _)

/-- Definitions of inputs are read one after the other. -/
theorem listed {close : Mark} (closes : close = .parenClose ∨ close = .braceClose)
    {definitions : List InputDefinition} (fits : ∀ definition ∈ definitions, definition.Fits room)
    (within : sure → room ≤ Parser.nestingLimit) :
    Listed sure close Parser.inputDefinition tokens Fresh definitions :=
  listed_described closes
    (fun definition _ => ⟨definition.description, definition.name, _, by
      simp only [tokens, List.append_assoc, List.cons_append]
      rfl⟩)
    fun definition member _ fresh => reads (fits definition member) within fresh

end InputDefinition

namespace FieldDefinition

/-- The tokens of a field of an object or interface. -/
def tokens (definition : FieldDefinition) : List Token :=
  descriptionTokens definition.description ++ .name definition.name ::
    enclosed .parenOpen .parenClose InputDefinition.tokens definition.arguments ++
      .mark .colon :: definition.type.tokens ++ definition.annotations.flatMap Applied.tokens

/-- Definitions of fields whose parts have room. -/
structure Fits (definition : FieldDefinition) (room : Nat) : Prop where
  arguments : ∀ argument ∈ definition.arguments, argument.Fits room
  type : definition.type.Fits room
  annotations : ∀ applied ∈ definition.annotations, Applied.Fits applied

/-- The definition of a field is read, up to what is fresh. -/
theorem reads {definition : FieldDefinition} (fits : definition.Fits room)
    (within : sure → room ≤ Parser.nestingLimit) {rest : List Token} (fresh : Fresh rest) :
    Reads sure Parser.fieldDefinition (definition.tokens ++ rest) definition rest := by
  have typed : Lacks .bang (definition.annotations.flatMap Applied.tokens ++ rest) :=
    Applied.lacks_flatMap (by simp) _ (fresh.lacks (by simp))
  have given := InputDefinition.listed (.inl rfl) fits.arguments within
  -- The arguments may be missing, since a colon is no parenthesis.
  simp only [tokens, List.append_assoc, List.cons_append]
  refine (Reads.description _ _ rfl).bind ?_
  refine (Reads.name _ _).bind ?_
  refine (given.optionalMany fun _ => by simp [Lacks]).bind ?_
  refine (Reads.expectMark .colon _).bind ?_
  refine (TypeReference.reads_typeWithin fits.type within typed).bind ?_
  exact (Applied.reads_annotations fits.annotations fresh.apart).bind (.pure _ _)

/-- Definitions of fields are read one after the other. -/
theorem listed {definitions : List FieldDefinition}
    (fits : ∀ definition ∈ definitions, definition.Fits room)
    (within : sure → room ≤ Parser.nestingLimit) :
    Listed sure .braceClose Parser.fieldDefinition tokens Fresh definitions :=
  listed_described (.inr rfl)
    (fun definition _ => ⟨definition.description, definition.name, _, by
      simp only [tokens, List.append_assoc, List.cons_append]
      rfl⟩)
    fun definition member _ fresh => reads (fits definition member) within fresh

end FieldDefinition

namespace EnumValueDefinition

/-- The tokens of a value of an enum. -/
def tokens (definition : EnumValueDefinition) : List Token :=
  descriptionTokens definition.description ++ .name definition.name ::
    definition.annotations.flatMap Applied.tokens

/-- Definitions of values whose names are not reserved and whose directives have room. -/
structure Fits (definition : EnumValueDefinition) : Prop where
  free : definition.name ∉ Parser.reservedValues
  annotations : ∀ applied ∈ definition.annotations, Applied.Fits applied

/-- The definition of a value is read, up to what is fresh. -/
theorem reads {definition : EnumValueDefinition} (fits : definition.Fits) {rest : List Token}
    (fresh : Fresh rest) :
    Reads sure Parser.enumValueDefinition (definition.tokens ++ rest) definition rest := by
  simp only [tokens, List.append_assoc, List.cons_append]
  refine (Reads.description _ _ rfl).bind ?_
  refine (Reads.current _ _).bind ?_
  refine .of_false (by simpa [Parser.textOf?] using fits.free) ?_
  refine (Reads.name _ _).bind ?_
  exact (Applied.reads_annotations fits.annotations fresh.apart).bind (.pure _ _)

/-- Definitions of values are read one after the other. -/
theorem listed {definitions : List EnumValueDefinition}
    (fits : ∀ definition ∈ definitions, definition.Fits) :
    Listed sure .braceClose Parser.enumValueDefinition tokens Fresh definitions :=
  listed_described (.inr rfl)
    (fun definition _ => ⟨definition.description, definition.name, _, rfl⟩)
    fun definition member _ fresh => reads (fits definition member) fresh

end EnumValueDefinition

/-- The tokens of a kind of operations with its root type. -/
def rootTokens (root : Root × String) : List Token :=
  [.name root.1.keyword, .mark .colon, .name root.2]

/-- A kind of operations is read with its root type. -/
theorem Reads.rootDefinition (root : Root × String) (rest : List Token) :
    Reads sure Parser.rootDefinition (rootTokens root ++ rest) root rest := by
  -- The word of a root type is the one that the parser looks up.
  have kind : Parser.rootOfWord? root.1.keyword = some root.1 := by
    cases root.1 <;> decide
  have known (tokens : List Token) :
      Reads sure Parser.operationKind (.name root.1.keyword :: tokens) root.1 tokens := by
    refine (current _ _).bind ((name _ _).bind ?_)
    rw [kind]
    exact pure _ _
  exact (known _).bind ((expectMark .colon _).bind ((name root.2 rest).bind (pure _ _)))

/-- Kinds of operations are read one after the other. -/
theorem listed_roots (roots : List (Root × String)) :
    Listed sure .braceClose Parser.rootDefinition rootTokens (fun _ => True) roots where
  closes _ := trivial
  begins _ _ _ := ⟨by simp [Lacks, rootTokens], trivial⟩
  reads root _ rest _ := .rootDefinition root rest

namespace TypeContent

/-- The tokens of members behind a sign, with delimiters between them. -/
def memberTokens : List String → List Token
  | [] => []
  | first :: others =>
    .mark .equals :: .name first :: others.flatMap fun name => [.mark .pipe, .name name]

/-- The tokens of what a definition says; only what the printer writes has some. -/
def tokens : TypeContent → List Token
  | .schema annotations roots =>
    .name "schema" :: annotations.flatMap Applied.tokens ++
      .mark .braceOpen :: roots.flatMap rootTokens ++ [.mark .braceClose]
  | .object name _ annotations fields =>
    .name "type" :: .name name :: annotations.flatMap Applied.tokens ++
      enclosed .braceOpen .braceClose FieldDefinition.tokens fields
  | .interface name _ annotations fields =>
    .name "interface" :: .name name :: annotations.flatMap Applied.tokens ++
      enclosed .braceOpen .braceClose FieldDefinition.tokens fields
  | .union name annotations members =>
    .name "union" :: .name name :: annotations.flatMap Applied.tokens ++ memberTokens members
  | .enum name annotations values =>
    .name "enum" :: .name name :: annotations.flatMap Applied.tokens ++
      enclosed .braceOpen .braceClose EnumValueDefinition.tokens values
  | .input name annotations fields =>
    .name "input" :: .name name :: annotations.flatMap Applied.tokens ++
      enclosed .braceOpen .braceClose InputDefinition.tokens fields
  | .scalar _ _ => []
  | .directive .. => []

/-- What the printer writes: no interfaces, and parts with room. -/
def Fits (room : Nat) : TypeContent → Prop
  | .schema annotations roots => (∀ applied ∈ annotations, Applied.Fits applied) ∧ roots ≠ []
  | .object _ parents annotations fields => parents = [] ∧
    (∀ applied ∈ annotations, Applied.Fits applied) ∧ ∀ field ∈ fields, field.Fits room
  | .interface _ parents annotations fields => parents = [] ∧
    (∀ applied ∈ annotations, Applied.Fits applied) ∧ ∀ field ∈ fields, field.Fits room
  | .union _ annotations _ => ∀ applied ∈ annotations, Applied.Fits applied
  | .enum _ annotations values => (∀ applied ∈ annotations, Applied.Fits applied) ∧
    ∀ value ∈ values, value.Fits
  | .input _ annotations fields => (∀ applied ∈ annotations, Applied.Fits applied) ∧
    ∀ field ∈ fields, field.Fits room
  | .scalar _ _ => False
  | .directive .. => False

/-- The word that a definition of the type system begins with. -/
def keyword : TypeContent → String
  | .schema .. => "schema"
  | .scalar .. => "scalar"
  | .object .. => "type"
  | .interface .. => "interface"
  | .union .. => "union"
  | .enum .. => "enum"
  | .input .. => "input"
  | .directive .. => "directive"

/-- No interfaces are read where their word does not come next. -/
theorem reads_interfaces {tokens : List Token}
    (apart : tokens.head? ≠ some (.name "implements")) :
    Reads sure Parser.interfaces tokens [] tokens :=
  (Reads.skipWord_of_ne apart).bind (.of_false Bool.false_ne_true (.pure _ _))

/-- The members of a union are read, up to what is fresh. -/
theorem reads_unionMembers (members : List String) {rest : List Token} (fresh : Fresh rest) :
    Reads sure Parser.unionMembers (memberTokens members ++ rest) members rest := by
  unfold Parser.unionMembers
  -- The sign tells whether there are members.
  cases members with
  | nil =>
    refine (Reads.skipMark_of_lacks (fresh.lacks (by simp))).bind ?_
    exact .of_false Bool.false_ne_true (.pure _ _)
  | cons first others =>
    refine (Reads.skipMark .equals _).bind (.of_true rfl ?_)
    exact .delimited (fresh.lacks (by simp)) first others

variable {α : Type} {written : α → List Token}

/-- Members in braces go on with no directive. -/
theorem apart_enclosed (items : List α) {rest : List Token} (fresh : Fresh rest) :
    Lacks .at (enclosed .braceOpen .braceClose written items ++ rest) ∧
      Lacks .parenOpen (enclosed .braceOpen .braceClose written items ++ rest) := by
  -- Without members what follows the header is fresh; with them it is a brace.
  cases items with
  | nil => exact fresh.apart
  | cons first others => simp [enclosed, Lacks]

/-- Members of a union go on with no directive. -/
theorem apart_memberTokens (members : List String) {rest : List Token} (fresh : Fresh rest) :
    Lacks .at (memberTokens members ++ rest) ∧ Lacks .parenOpen (memberTokens members ++ rest) := by
  -- As with members in braces; here what introduces them is an equals sign.
  cases members with
  | nil => exact fresh.apart
  | cons first others => simp [memberTokens, Lacks]

/-- A header is not followed by the word for interfaces. -/
theorem head?_header_ne (annotations : List Annotation) (items : List α) {rest : List Token}
    (apart : rest.head? ≠ some (.name "implements")) :
    (annotations.flatMap Applied.tokens ++
      (enclosed .braceOpen .braceClose written items ++ rest)).head? ≠
        some (.name "implements") := by
  -- A header goes on with a directive, with a brace, or with what follows the definition.
  cases annotations with
  | cons first others => simp [Applied.tokens]
  | nil =>
    cases items with
    | nil => exact apart
    | cons first others => simp [enclosed]

/-- The content of a definition is read, up to what is fresh. -/
theorem reads {content : TypeContent} (fits : content.Fits room)
    (within : sure → room ≤ Parser.nestingLimit) {rest : List Token} (fresh : Fresh rest)
    (apart : rest.head? ≠ some (.name "implements")) :
    Reads sure (Parser.typeContent content.keyword) (content.tokens ++ rest) content rest := by
  have unbraced : Lacks .braceOpen rest := fresh.lacks (by simp)
  -- Part by part, in the order of the parser; the parts that may be missing end at what is fresh.
  cases content with
  | scalar label annotations => exact fits.elim
  | directive label given annotations repeatable places => exact fits.elim
  | schema annotations roots =>
    obtain ⟨annotated, some_root⟩ := fits
    cases roots with
    | nil => exact (some_root rfl).elim
    | cons first others =>
      simp only [tokens, List.append_assoc, List.cons_append, List.nil_append]
      refine (Reads.expectWord "schema" _).bind ?_
      refine (Applied.reads_annotations annotated (by simp [Lacks])).bind ?_
      exact ((listed_roots (first :: others)).many .braceOpen rest).bind (.pure _ _)
  | object label parents annotations fields =>
    obtain ⟨rfl, annotated, fielded⟩ := fits
    simp only [tokens, List.append_assoc, List.cons_append]
    refine (Reads.expectWord "type" _).bind ((Reads.name label _).bind ?_)
    refine (reads_interfaces (head?_header_ne annotations fields apart)).bind ?_
    refine (Applied.reads_annotations annotated (apart_enclosed fields fresh)).bind ?_
    exact ((FieldDefinition.listed fielded within).optionalMany fun _ => unbraced).bind (.pure _ _)
  | interface label parents annotations fields =>
    obtain ⟨rfl, annotated, fielded⟩ := fits
    simp only [tokens, List.append_assoc, List.cons_append]
    refine (Reads.expectWord "interface" _).bind ((Reads.name label _).bind ?_)
    refine (reads_interfaces (head?_header_ne annotations fields apart)).bind ?_
    refine (Applied.reads_annotations annotated (apart_enclosed fields fresh)).bind ?_
    exact ((FieldDefinition.listed fielded within).optionalMany fun _ => unbraced).bind (.pure _ _)
  | union label annotations members =>
    simp only [tokens, List.append_assoc, List.cons_append]
    refine (Reads.expectWord "union" _).bind ((Reads.name label _).bind ?_)
    refine (Applied.reads_annotations fits (apart_memberTokens members fresh)).bind ?_
    exact (reads_unionMembers members fresh).bind (.pure _ _)
  | enum label annotations values =>
    obtain ⟨annotated, valued⟩ := fits
    simp only [tokens, List.append_assoc, List.cons_append]
    refine (Reads.expectWord "enum" _).bind ((Reads.name label _).bind ?_)
    refine (Applied.reads_annotations annotated (apart_enclosed values fresh)).bind ?_
    exact ((EnumValueDefinition.listed valued).optionalMany fun _ => unbraced).bind (.pure _ _)
  | input label annotations fields =>
    obtain ⟨annotated, fielded⟩ := fits
    simp only [tokens, List.append_assoc, List.cons_append]
    refine (Reads.expectWord "input" _).bind ((Reads.name label _).bind ?_)
    refine (Applied.reads_annotations annotated (apart_enclosed fields fresh)).bind ?_
    exact ((InputDefinition.listed (.inr rfl) fielded within).optionalMany fun _ => unbraced).bind
      (.pure _ _)

/-- What is written begins with its keyword. -/
theorem exists_tokens_eq {content : TypeContent} (fits : content.Fits room) :
    ∃ tail, content.tokens = .name content.keyword :: tail := by
  -- Scalars and directives are not among what the printer writes.
  cases content with
  | scalar label annotations => exact fits.elim
  | directive label given annotations repeatable places => exact fits.elim
  | _ => exact ⟨_, rfl⟩

/-- Keywords are known to the parser, and none is the word for interfaces. -/
theorem keyword_known (content : TypeContent) :
    Parser.typeKeywords.contains content.keyword = true ∧ content.keyword ≠ "implements" := by
  cases content <;> simp [keyword, Parser.typeKeywords]

end TypeContent

namespace Definition

/-- The tokens of a definition of the type system. -/
def tokens : Definition → List Token
  | .type description content => descriptionTokens description ++ content.tokens
  | _ => []

/-- Definitions that the printer writes. -/
def Fits (room : Nat) : Definition → Prop
  | .type _ content => content.Fits room
  | _ => False

/-- What may come behind a definition: another one, or the end. -/
structure Ends (tokens : List Token) : Prop where
  fresh : Fresh tokens
  apart : tokens.head? ≠ some (.name "implements")

/-- A definition may come behind another one. -/
theorem ends_append {definition : Definition} (fits : definition.Fits room) (rest : List Token) :
    Ends (definition.tokens ++ rest) ∧
      (definition.tokens ++ rest).head? ≠ some .finish := by
  cases definition with
  | type description content =>
    -- A definition begins with its description or with its keyword.
    obtain ⟨tail, same⟩ := content.exists_tokens_eq fits
    have word := content.keyword_known.2
    simp only [tokens, same, List.append_assoc, List.cons_append]
    refine ⟨⟨fresh_described _ _ _, ?_⟩, ?_⟩
    · cases description <;> simp [descriptionTokens, word]
    · cases description <;> simp [descriptionTokens]
  | extension content => exact fits.elim
  | operation description kind name inputs annotations selections => exact fits.elim
  | fragment description name condition annotations selections => exact fits.elim

/-- A definition is read, up to another one or the end. -/
theorem reads {definition : Definition} (fits : definition.Fits room)
    (within : sure → room ≤ Parser.nestingLimit) {rest : List Token} (ends : Ends rest) :
    Reads sure Parser.definition (definition.tokens ++ rest) definition rest := by
  cases definition with
  | extension content => exact fits.elim
  | operation description kind name inputs annotations selections => exact fits.elim
  | fragment description name condition annotations selections => exact fits.elim
  | type description content =>
    have read := content.reads fits within ends.fresh ends.apart
    obtain ⟨tail, same⟩ := content.exists_tokens_eq fits
    have known := content.keyword_known.1
    simp only [tokens, List.append_assoc]
    rw [same] at read ⊢
    unfold Parser.definition
    -- The keyword is the current token, or the one behind the description.
    have keyworded : Reads sure (do
        let description ← Parser.description
        return .type description (← Parser.typeContent content.keyword))
        (descriptionTokens description ++ (.name content.keyword :: tail ++ rest))
        (Definition.type description content) rest :=
      (Reads.description description _ rfl).bind (read.bind (.pure _ _))
    cases description with
    | none =>
      refine (Reads.atMark_of_lacks (by simp [Lacks, descriptionTokens])).bind ?_
      refine .of_false Bool.false_ne_true ?_
      refine (Reads.current (.name content.keyword) (tail ++ rest)).bind ?_
      refine (Reads.current (.name content.keyword) (tail ++ rest)).bind ?_
      refine .of_false (by simp [Parser.isDescription]) ?_
      exact .of_true known keyworded
    | some value =>
      refine (Reads.atMark_of_lacks (by simp [Lacks, descriptionTokens])).bind ?_
      refine .of_false Bool.false_ne_true ?_
      refine (Reads.current (.block value) (.name content.keyword :: tail ++ rest)).bind ?_
      refine (Reads.lookahead (.block value) (.name content.keyword) (tail ++ rest)).bind ?_
      refine .of_false (by simp) ?_
      exact .of_true known keyworded

/-- Definitions are read up to the end. -/
theorem reads_definitions {definitions : List Definition} (some_definition : definitions ≠ [])
    (fits : ∀ definition ∈ definitions, definition.Fits room)
    (within : sure → room ≤ Parser.nestingLimit) {fuel : Nat}
    (enough : definitions.length ≤ fuel) :
    Reads sure (Parser.definitions fuel) (definitions.flatMap tokens ++ [.finish]) definitions
      [.finish] := by
  -- Each definition is followed by another one or by the end, either of which ends it.
  induction definitions generalizing fuel with
  | nil => exact (some_definition rfl).elim
  | cons first others ih =>
    cases fuel with
    | zero => simp at enough
    | succ fuel =>
      have fewer : others.length ≤ fuel := by
        rw [List.length_cons] at enough
        omega
      have fitting : ∀ definition ∈ others, definition.Fits room := fun definition member =>
        fits definition (List.mem_cons_of_mem first member)
      rw [List.flatMap_cons, List.append_assoc]
      cases others with
      | nil =>
        have finished : Ends [.finish] := ⟨fun mark begins => by simp at begins, by simp⟩
        refine (reads (fits first List.mem_cons_self) within finished).bind ?_
        exact (Reads.current .finish []).bind (.of_true rfl (.pure _ _))
      | cons second more =>
        have ending := ends_append (fitting second List.mem_cons_self)
          (more.flatMap tokens ++ [.finish])
        have read := ih (List.cons_ne_nil second more) fitting fewer
        rw [List.flatMap_cons, List.append_assoc] at read ⊢
        refine (reads (fits first List.mem_cons_self) within ending.1).bind ?_
        -- The document goes on with a token that is not its end.
        cases located : second.tokens ++ (more.flatMap tokens ++ [.finish]) with
        | nil => simp at located
        | cons token rest =>
          rw [located] at read ending
          refine (Reads.current token rest).bind ?_
          refine .of_false (by simpa using ending.2) ?_
          exact read.bind (.pure _ _)

/--
A text whose tokens are those of definitions is parsed as these; where there may be no room for
them, the parser may give up instead.
-/
theorem parse_eq_or {definitions : List Definition} (some_definition : definitions ≠ [])
    (fits : ∀ definition ∈ definitions, definition.Fits room)
    (within : sure → room ≤ Parser.nestingLimit) {text : List Char}
    (lexed : lex text = definitions.flatMap tokens ++ [.finish])
    (clean : Clean (definitions.flatMap tokens ++ [.finish])) :
    parse text = .ok definitions ∨ (¬sure ∧ ∃ fault, parse text = .error fault) := by
  -- A definition without a token would be taken for the end behind it.
  have length_le : definitions.length ≤ (definitions.flatMap tokens).length := by
    refine length_le_flatMap fun definition member empty => ?_
    apply (ends_append (fits definition member) [Token.finish]).2
    rw [empty]
    rfl
  -- The parser has fuel for as many definitions as there are tokens.
  have enough : definitions.length ≤ (definitions.flatMap tokens ++ [Token.finish]).length + 1 := by
    rw [List.length_append]
    omega
  have outcome := reads_definitions some_definition fits within enough clean
  unfold parse
  rw [lexed]
  -- The first token is no fault.
  split
  · rename_i fault rest begins
    have sound := clean (.invalid fault) (by rw [begins]; exact List.mem_cons_self)
    cases sound
  · rcases outcome with ⟨read, -⟩ | ⟨unsure, fault, given_up⟩
    · rw [read]
      exact .inl rfl
    · rw [given_up]
      exact .inr ⟨unsure, fault, rfl⟩

end Definition

end AppSync.Sdl
