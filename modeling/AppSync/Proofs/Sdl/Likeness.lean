import AppSync.Sdl.Parser
import Mathlib.Data.List.Forall2

/-!
The grammar does not depend on the texts of strings: parsers end alike on tokens that differ in
nothing else, and so a document is one whatever its strings say.
-/

namespace AppSync.Sdl

/-- Tokens that are the same but for the texts of strings; all faults of the text are alike. -/
inductive Token.Alike : Token → Token → Prop where
  | same (token : Token) : Token.Alike token token
  | string (first second : String) : Token.Alike (.string first) (.string second)
  | block (first second : String) : Token.Alike (.block first) (.block second)
  | invalid (first second : LexicalFault) : Token.Alike (.invalid first) (.invalid second)

/-- How two parsers end together: both with a fault, or with related values before alike tokens. -/
inductive EndTogether {α : Type} (related : α → α → Prop) :
    Except GrammarFault (α × List Token) → Except GrammarFault (α × List Token) → Prop where
  | failed (fault other : GrammarFault) : EndTogether related (.error fault) (.error other)
  | read {value other : α} {rest behind : List Token} (own : related value other)
      (alike : List.Forall₂ Token.Alike rest behind) :
      EndTogether related (.ok (value, rest)) (.ok (other, behind))

/-- Whether two parsers end together on alike tokens. -/
def Together {α : Type} (related : α → α → Prop) (first second : Parser α) : Prop :=
  ∀ tokens others, List.Forall₂ Token.Alike tokens others →
    EndTogether related (first tokens) (second others)

/-- Values that need nothing in common. -/
abbrev Any {α : Type} (_ _ : α) : Prop := True

/-- Lists both of which have an item, or neither. -/
abbrev BothEmpty {α : Type} (items others : List α) : Prop := items.isEmpty = others.isEmpty

namespace Together

variable {α β : Type} {related other : α → α → Prop} {next : β → β → Prop}
  {first second : Parser α}

/-- What is related is related in a weaker way. -/
theorem mono (together : Together related first second)
    (weaker : ∀ a b, related a b → other a b) : Together other first second := by
  intro tokens others alike
  have ends := together tokens others alike
  generalize first tokens = result, second others = outcome at ends ⊢
  cases ends with
  | failed fault other => exact .failed fault other
  | read own rest => exact .read (weaker _ _ own) rest

/-- Nothing needs to be related. -/
theorem any (together : Together related first second) : Together Any first second :=
  together.mono fun _ _ _ => trivial

/-- Values that are there already leave all tokens. -/
theorem pure {value also : α} (own : related value also) :
    Together related (Pure.pure value) (Pure.pure also) :=
  fun _ _ alike => .read own alike

/-- Parsers end together if they begin so and go on so after related values. -/
theorem bind {goOn goOnToo : α → Parser β} (together : Together related first second)
    (behind : ∀ value also, related value also → Together next (goOn value) (goOnToo also)) :
    Together next (first >>= goOn) (second >>= goOnToo) := by
  intro tokens others alike
  -- A parser is a function of the tokens, so that its bind goes through the results.
  change EndTogether next (first tokens >>= fun found => goOn found.1 found.2)
    (second others >>= fun found => goOnToo found.1 found.2)
  have ends := together tokens others alike
  generalize first tokens = result, second others = outcome at ends ⊢
  cases ends with
  | failed fault other => exact .failed fault other
  | read own rest => exact behind _ _ own _ _ rest

/-- Parsers that go on in one way whatever they have read end together if both parts do. -/
theorem andThen {goOn goOnToo : α → Parser β} (together : Together Any first second)
    (behind : ∀ value also, Together next (goOn value) (goOnToo also)) :
    Together next (first >>= goOn) (second >>= goOnToo) :=
  together.bind fun value also _ => behind value also

/-- Parsers give up together. -/
theorem fail (fault also : GrammarFault) :
    Together related (Parser.fail fault) (Parser.fail also) :=
  fun _ _ _ => .failed fault also

/-- What a condition decides in one way ends together if both branches do. -/
theorem ite {condition : Prop} [Decidable condition] {thenFirst thenSecond : Parser α}
    (holds : Together related thenFirst thenSecond) (fails : Together related first second) :
    Together related (if condition then thenFirst else first)
      (if condition then thenSecond else second) := by
  split
  · exact holds
  · exact fails

/-- The current tokens are alike. -/
theorem current : Together Token.Alike Parser.current Parser.current := by
  intro tokens others alike
  cases alike with
  | nil => exact .read (.same .finish) .nil
  | cons own rest => exact .read own (.cons own rest)

/-- Parsers give up together because of the current token. -/
theorem unexpected : Together related Parser.unexpected Parser.unexpected :=
  current.bind fun _ _ _ => fail _ _

/-- The current tokens are passed over together. -/
theorem advance : Together Any Parser.advance Parser.advance := by
  intro tokens others alike
  cases alike with
  | nil => exact .read trivial .nil
  | cons _ rest =>
    cases rest with
    | nil => exact .read trivial .nil
    | @cons next also _ _ own rest =>
      -- Only a fault behind the current token is no token to go on with.
      cases own with
      | invalid => exact .failed _ _
      | string => exact .read trivial (.cons (.string _ _) rest)
      | block => exact .read trivial (.cons (.block _ _) rest)
      | same =>
        cases next with
        | invalid => exact .failed _ _
        | _ => exact .read trivial (.cons (.same _) rest)

/-- The tokens behind the current ones are alike. -/
theorem lookahead : Together Token.Alike Parser.lookahead Parser.lookahead := by
  -- The current token is passed over, and the next one looked at if there is any.
  intro tokens others alike
  cases alike with
  | nil => exact .read (.same .finish) .nil
  | cons own rest =>
    cases rest with
    | nil => exact .read (.same .finish) (.cons own .nil)
    | @cons next also _ _ ownNext rest =>
      cases ownNext with
      | invalid => exact .failed _ _
      | string => exact .read (.string _ _) (.cons own (.cons (.string _ _) rest))
      | block => exact .read (.block _ _) (.cons own (.cons (.block _ _) rest))
      | same =>
        cases next with
        | invalid => exact .failed _ _
        | _ => exact .read (.same _) (.cons own (.cons (.same _) rest))

/-- What looks at the current token goes on alike if it makes nothing of the text of a string. -/
theorem onCurrent {goOn goOnToo : Token → Parser α}
    (same : ∀ token, Together related (goOn token) (goOnToo token))
    (strings : ∀ text also, Together related (goOn (.string text)) (goOnToo (.string also)))
    (blocks : ∀ text also, Together related (goOn (.block text)) (goOnToo (.block also)))
    (faults : ∀ fault also, Together related (goOn (.invalid fault)) (goOnToo (.invalid also))) :
    Together related (Parser.current >>= goOn) (Parser.current >>= goOnToo) := by
  -- Tokens that are alike are the same, but for what strings, blocks and faults say.
  refine current.bind fun token also alike => ?_
  cases alike with
  | same => exact same token
  | string => exact strings _ _
  | block => exact blocks _ _
  | invalid => exact faults _ _

/-- Both parsers are at a mark, or neither is. -/
theorem atMark (mark : Mark) : Together Eq (Parser.atMark mark) (Parser.atMark mark) :=
  onCurrent (fun _ => .pure rfl) (fun _ _ => .pure rfl) (fun _ _ => .pure rfl)
    fun _ _ => .pure rfl

/-- A mark is passed over together. -/
theorem expectMark (mark : Mark) : Together Any (Parser.expectMark mark) (Parser.expectMark mark) :=
  onCurrent (fun _ => .ite advance (fail _ _)) (fun _ _ => fail _ _) (fun _ _ => fail _ _)
    fun _ _ => fail _ _

/-- A word is passed over together. -/
theorem expectWord (word : String) :
    Together Any (Parser.expectWord word) (Parser.expectWord word) :=
  onCurrent (fun _ => .ite advance (fail _ _)) (fun _ _ => fail _ _) (fun _ _ => fail _ _)
    fun _ _ => fail _ _

/-- A mark is passed over together if it is there. -/
theorem skipMark (mark : Mark) : Together Eq (Parser.skipMark mark) (Parser.skipMark mark) := by
  refine (atMark mark).bind ?_
  rintro found _ rfl
  exact .ite (advance.andThen fun _ _ => .pure rfl) (.pure rfl)

/-- A word is passed over together if it is there. -/
theorem skipWord (word : String) : Together Eq (Parser.skipWord word) (Parser.skipWord word) :=
  onCurrent (fun _ => .ite (advance.andThen fun _ _ => .pure rfl) (.pure rfl))
    (fun _ _ => .pure rfl) (fun _ _ => .pure rfl) fun _ _ => .pure rfl

/-- Names are the same. -/
theorem name : Together Eq Parser.name Parser.name := by
  refine onCurrent (fun token => ?_) (fun _ _ => fail _ _) (fun _ _ => fail _ _)
    fun _ _ => fail _ _
  cases token with
  | name text => exact advance.andThen fun _ _ => .pure rfl
  | _ => exact fail _ _

/-- Items up to a closing mark are read together if each of them is. -/
theorem untilMark (close : Mark) {item : Parser α} (each : Together Any item item) (fuel : Nat) :
    Together BothEmpty (Parser.untilMark close item fuel) (Parser.untilMark close item fuel) := by
  induction fuel with
  | zero => exact unexpected
  | succ fuel ih =>
    refine (skipMark close).bind ?_
    rintro found _ rfl
    exact .ite (.pure rfl) (each.andThen fun _ _ => ih.any.andThen fun _ _ => .pure rfl)

/-- The count of tokens is fuel enough for both. -/
theorem closedBy (close : Mark) {item : Parser α} (each : Together Any item item) :
    Together BothEmpty (Parser.closedBy close item) (Parser.closedBy close item) := by
  intro tokens others alike
  have ends := untilMark close each (tokens.length + 1) tokens others alike
  unfold Parser.closedBy
  rwa [← alike.length_eq]

/-- Items between marks are read together. -/
theorem betweenMarks (opening close : Mark) {item : Parser α} (each : Together Any item item) :
    Together BothEmpty (Parser.any opening close item) (Parser.any opening close item) :=
  (expectMark opening).andThen fun _ _ => closedBy close each

/-- Items between marks are read together where there has to be one. -/
theorem many (opening close : Mark) {item : Parser α} (each : Together Any item item) :
    Together BothEmpty (Parser.many opening close item) (Parser.many opening close item) :=
  (expectMark opening).andThen fun _ _ => each.andThen fun _ _ =>
    (closedBy close each).any.andThen fun _ _ => .pure rfl

/-- Items between marks are read together if the opening mark is there. -/
theorem optionalMany (opening close : Mark) {item : Parser α} (each : Together Any item item) :
    Together BothEmpty (Parser.optionalMany opening close item)
      (Parser.optionalMany opening close item) := by
  refine (atMark opening).bind ?_
  rintro found _ rfl
  exact .ite (many opening close each) (.pure rfl)

/-- Further items behind delimiters are read together. -/
theorem delimitedRest (delimiter : Mark) {item : Parser α} (each : Together Any item item)
    (fuel : Nat) : Together Any (Parser.delimitedRest delimiter item fuel)
      (Parser.delimitedRest delimiter item fuel) := by
  induction fuel with
  | zero => exact unexpected
  | succ fuel ih =>
    refine (skipMark delimiter).bind ?_
    rintro found _ rfl
    exact .ite (each.andThen fun _ _ => ih.andThen fun _ _ => .pure trivial) (.pure trivial)

/-- Items with delimiters between them are read together. -/
theorem delimited (delimiter : Mark) {item : Parser α} (each : Together Any item item) :
    Together BothEmpty (Parser.delimited delimiter item) (Parser.delimited delimiter item) := by
  refine (skipMark delimiter).any.andThen fun _ _ => each.andThen fun _ _ => ?_
  refine andThen (fun tokens others alike => ?_) fun _ _ => .pure rfl
  have ends := delimitedRest delimiter each (tokens.length + 1) tokens others alike
  rwa [← alike.length_eq]

/-- A labelled item is read together if the item is. -/
theorem labelled {item : Parser α} (own : Together Any item item) :
    Together Any (Parser.labelled item) (Parser.labelled item) :=
  name.any.andThen fun _ _ => (expectMark .colon).andThen fun _ _ => own.andThen fun _ _ =>
    .pure trivial

/-- A variable is read together. -/
theorem variableName : Together Any Parser.variableName Parser.variableName :=
  (expectMark .dollar).andThen fun _ _ => name.any

/-- A literal that is no collection is read together. -/
theorem plainLiteral (constant : Bool) :
    Together Any (Parser.plainLiteral constant) (Parser.plainLiteral constant) := by
  have passed (literal also : Literal) : Together Any
      (Parser.advance >>= fun _ => Pure.pure literal)
      (Parser.advance >>= fun _ => Pure.pure also) :=
    advance.andThen fun _ _ => .pure trivial
  refine onCurrent (fun token => ?_) (fun _ _ => passed _ _) (fun _ _ => passed _ _)
    fun _ _ => fail _ _
  cases token with
  | integer | decimal | string | block | name => exact passed _ _
  | finish | invalid => exact fail _ _
  | mark mark =>
    cases mark with
    | dollar =>
      -- A variable is a literal outside of constants only.
      refine .ite ((expectMark .dollar).andThen fun _ _ => ?_)
        (variableName.andThen fun _ _ => .pure trivial)
      refine onCurrent (fun token => ?_) (fun _ _ => fail _ _) (fun _ _ => fail _ _)
        fun _ _ => fail _ _
      cases token <;> exact fail _ _
    | _ => exact fail _ _

/-- A literal is read together, however deep its collections are. -/
theorem literalWithin (constant : Bool) (room : Nat) :
    Together Any (Parser.literalWithin constant room) (Parser.literalWithin constant room) := by
  -- Without room a collection is refused, and the choice is the same on both sides.
  induction room with
  | zero =>
    refine (atMark .bracketOpen).bind ?_
    rintro list _ rfl
    refine (atMark .braceOpen).bind ?_
    rintro object _ rfl
    exact .ite (fail _ _) (plainLiteral constant)
  | succ room ih =>
    refine (atMark .bracketOpen).bind ?_
    rintro list _ rfl
    refine .ite ((betweenMarks _ _ ih).any.andThen fun _ _ => .pure trivial) ?_
    refine (atMark .braceOpen).bind ?_
    rintro object _ rfl
    exact .ite ((betweenMarks _ _ (labelled ih)).any.andThen fun _ _ => .pure trivial)
      (plainLiteral constant)

/-- Arguments are read together. -/
theorem argumentsWithin (constant : Bool) (room : Nat) :
    Together Any (Parser.argumentsWithin constant room) (Parser.argumentsWithin constant room) :=
  (optionalMany _ _ (labelled (literalWithin constant room))).any

/-- Directives are read together. -/
theorem annotationsFrom (constant : Bool) (room fuel : Nat) :
    Together BothEmpty (Parser.annotationsFrom constant room fuel)
      (Parser.annotationsFrom constant room fuel) := by
  induction fuel with
  | zero => exact unexpected
  | succ fuel ih =>
    refine (skipMark .at).bind ?_
    rintro found _ rfl
    exact .ite (name.any.andThen fun _ _ => (argumentsWithin constant room).andThen fun _ _ =>
      ih.any.andThen fun _ _ => .pure rfl) (.pure rfl)

/-- The count of tokens is fuel enough for the directives of both. -/
theorem annotationsWithin (constant : Bool) (room : Nat) :
    Together BothEmpty (Parser.annotationsWithin constant room)
      (Parser.annotationsWithin constant room) := by
  intro tokens others alike
  have ends := annotationsFrom constant room (tokens.length + 1) tokens others alike
  unfold Parser.annotationsWithin
  rwa [← alike.length_eq]

/-- Directives outside of selections are read together. -/
theorem annotations (constant : Bool) :
    Together BothEmpty (Parser.annotations constant) (Parser.annotations constant) :=
  annotationsWithin constant _

/-- A type is read together, however deep its lists are. -/
theorem typeWithin (room : Nat) :
    Together Any (Parser.typeWithin room) (Parser.typeWithin room) := by
  have marked (type also : TypeReference) : Together Any (Parser.skipMark .bang >>= fun found =>
      if found then Pure.pure type.nonNull else Pure.pure type)
      (Parser.skipMark .bang >>= fun found =>
        if found then Pure.pure also.nonNull else Pure.pure also) := by
    refine (skipMark .bang).bind ?_
    rintro found _ rfl
    exact .ite (.pure trivial) (.pure trivial)
  -- The bracket is there on both sides or on neither, and so is the mark behind.
  induction room with
  | zero =>
    refine (atMark .bracketOpen).bind ?_
    rintro list _ rfl
    exact .ite ((fail _ _).andThen fun _ _ => name.any.andThen fun _ _ => marked _ _)
      (name.any.andThen fun _ _ => marked _ _)
  | succ room ih =>
    refine (skipMark .bracketOpen).bind ?_
    rintro list _ rfl
    exact .ite (ih.andThen fun _ _ => (expectMark .bracketClose).andThen fun _ _ => marked _ _)
      (name.any.andThen fun _ _ => marked _ _)

/-- A type is read together. -/
theorem typeReference : Together Any Parser.typeReference Parser.typeReference :=
  typeWithin _

/-- A description is passed over together. -/
theorem description : Together Any Parser.description Parser.description := by
  have passed (text also : Option String) : Together Any
      (Parser.advance >>= fun _ => Pure.pure text) (Parser.advance >>= fun _ => Pure.pure also) :=
    advance.andThen fun _ _ => .pure trivial
  refine onCurrent (fun token => ?_) (fun _ _ => passed _ _) (fun _ _ => passed _ _)
    fun _ _ => .pure trivial
  cases token with
  | string | block => exact passed _ _
  | _ => exact .pure trivial

/-- A default is read together. -/
theorem default : Together Any Parser.default Parser.default := by
  refine (skipMark .equals).bind ?_
  rintro found _ rfl
  exact .ite ((literalWithin true _).andThen fun _ _ => .pure trivial) (.pure trivial)

/-- An argument of a definition is read together. -/
theorem inputDefinition : Together Any Parser.inputDefinition Parser.inputDefinition :=
  description.andThen fun _ _ => (labelled typeReference).andThen fun _ _ =>
    default.andThen fun _ _ => (annotations true).any.andThen fun _ _ => .pure trivial

/-- The arguments of a definition are read together. -/
theorem argumentDefinitions : Together Any Parser.argumentDefinitions Parser.argumentDefinitions :=
  (optionalMany _ _ inputDefinition).any

/-- A field is read together. -/
theorem fieldDefinition : Together Any Parser.fieldDefinition Parser.fieldDefinition :=
  description.andThen fun _ _ => name.any.andThen fun _ _ =>
    argumentDefinitions.andThen fun _ _ => (expectMark .colon).andThen fun _ _ =>
    typeReference.andThen fun _ _ => (annotations true).any.andThen fun _ _ => .pure trivial

/-- What looks at the current token goes on alike if it refuses all tokens but names. -/
theorem onCurrentName {goOn goOnToo : Token → Parser α}
    (same : ∀ token, Together related (goOn token) (goOnToo token))
    (refused : ∀ token, (∀ text, token ≠ .name text) → ∀ rest,
      (∃ fault, goOn token (token :: rest) = .error fault) ∧
        ∃ fault, goOnToo token (token :: rest) = .error fault) :
    Together related (Parser.current >>= goOn) (Parser.current >>= goOnToo) := by
  intro tokens others alike
  change EndTogether related (goOn (tokens.headD .finish) tokens)
    (goOnToo (others.headD .finish) others)
  -- Two strings are refused, each for what it says.
  have both {token also : Token} {rest behind : List Token} (other : ∀ text, token ≠ .name text)
      (otherToo : ∀ text, also ≠ .name text) :
      EndTogether related (goOn token (token :: rest)) (goOnToo also (also :: behind)) := by
    obtain ⟨fault, failed⟩ := (refused token other rest).1
    obtain ⟨faultToo, failedToo⟩ := (refused also otherToo behind).2
    rw [failed, failedToo]
    exact .failed _ _
  cases alike with
  | nil => exact same .finish [] [] .nil
  | @cons token also rest behind own alike =>
    cases own with
    | same => exact same token _ _ (.cons (.same token) alike)
    | string | block | invalid => exact both (by simp) (by simp)

/-- A value of an enum is read together; no string is one, whatever it says. -/
theorem enumValueDefinition :
    Together Any Parser.enumValueDefinition Parser.enumValueDefinition := by
  refine description.andThen fun text also => onCurrentName (fun token => ?_) ?_
  · -- A name and its directives are read where the token is no reserved word.
    refine .ite ((fail _ _).andThen fun _ _ => ?_) ?_
    all_goals
      exact name.any.andThen fun _ _ => (annotations true).any.andThen fun _ _ => .pure trivial
  · intro token other rest
    dsimp only
    split
    · exact ⟨⟨_, rfl⟩, _, rfl⟩
    · cases token with
      | name text => exact (other text rfl).elim
      | _ => exact ⟨⟨_, rfl⟩, _, rfl⟩

/-- The kind of an operation is the same. -/
theorem operationKind : Together Eq Parser.operationKind Parser.operationKind := by
  refine current.bind fun token also _ => name.bind ?_
  rintro word _ rfl
  cases Parser.rootOfWord? word with
  | some root => exact .pure rfl
  | none => exact fail _ _

/-- A root type is read together. -/
theorem rootDefinition : Together Any Parser.rootDefinition Parser.rootDefinition :=
  operationKind.any.andThen fun _ _ => (expectMark .colon).andThen fun _ _ =>
    name.any.andThen fun _ _ => .pure trivial

/-- Interfaces are read together. -/
theorem interfaces : Together BothEmpty Parser.interfaces Parser.interfaces := by
  refine (skipWord "implements").bind ?_
  rintro found _ rfl
  exact .ite (delimited .amp name.any) (.pure rfl)

/-- The members of a union are read together. -/
theorem unionMembers : Together BothEmpty Parser.unionMembers Parser.unionMembers := by
  refine (skipMark .equals).bind ?_
  rintro found _ rfl
  exact .ite (delimited .pipe name.any) (.pure rfl)

/-- A place of a directive is read together. -/
theorem directivePlace : Together Any Parser.directivePlace Parser.directivePlace := by
  refine current.bind fun token also _ => name.bind ?_
  rintro place _ rfl
  exact .ite (.pure trivial) (fail _ _)

/-- Contents that both add something, or neither. -/
abbrev BothAdd (content other : TypeContent) : Prop :=
  Parser.addsSomething content = Parser.addsSomething other

/-- The content of a definition is read together. -/
theorem typeContent (keyword : String) :
    Together BothAdd (Parser.typeContent keyword) (Parser.typeContent keyword) := by
  refine (expectWord keyword).andThen fun _ _ => ?_
  -- One branch for each keyword; what counts is whether anything is added at all.
  split
  · refine (annotations true).bind fun applied given same => ?_
    refine (many _ _ rootDefinition).bind fun roots others sameRoots => .pure ?_
    simp [BothAdd, Parser.addsSomething, same, sameRoots]
  · refine name.any.andThen fun _ _ => (annotations true).bind fun applied given same => .pure ?_
    simp [BothAdd, Parser.addsSomething, same]
  · refine name.any.andThen fun _ _ => interfaces.bind fun parents also sameParents => ?_
    refine (annotations true).bind fun applied given same => ?_
    refine (optionalMany _ _ fieldDefinition).bind fun fields others sameFields => .pure ?_
    simp [BothAdd, Parser.addsSomething, same, sameParents, sameFields]
  · refine name.any.andThen fun _ _ => interfaces.bind fun parents also sameParents => ?_
    refine (annotations true).bind fun applied given same => ?_
    refine (optionalMany _ _ fieldDefinition).bind fun fields others sameFields => .pure ?_
    simp [BothAdd, Parser.addsSomething, same, sameParents, sameFields]
  · refine name.any.andThen fun _ _ => (annotations true).bind fun applied given same => ?_
    refine unionMembers.bind fun members others sameMembers => .pure ?_
    simp [BothAdd, Parser.addsSomething, same, sameMembers]
  · refine name.any.andThen fun _ _ => (annotations true).bind fun applied given same => ?_
    refine (optionalMany _ _ enumValueDefinition).bind fun values others sameValues => .pure ?_
    simp [BothAdd, Parser.addsSomething, same, sameValues]
  · refine name.any.andThen fun _ _ => (annotations true).bind fun applied given same => ?_
    refine (optionalMany _ _ inputDefinition).bind fun fields others sameFields => .pure ?_
    simp [BothAdd, Parser.addsSomething, same, sameFields]
  · refine (expectMark .at).andThen fun _ _ => name.any.andThen fun _ _ => ?_
    refine argumentDefinitions.andThen fun _ _ => ?_
    refine (annotations true).bind fun applied given same => ?_
    refine (skipWord "repeatable").any.andThen fun _ _ => (expectWord "on").andThen fun _ _ => ?_
    refine (delimited .pipe directivePlace).any.andThen fun _ _ => .pure ?_
    simp [BothAdd, Parser.addsSomething, same]

/-- What an extension says is read together. -/
theorem extendedContent (keyword : String) :
    Together BothAdd (Parser.extendedContent keyword) (Parser.extendedContent keyword) := by
  unfold Parser.extendedContent
  split
  · refine (expectWord _).andThen fun _ _ => (annotations true).bind fun applied given same => ?_
    refine (optionalMany _ _ rootDefinition).bind fun roots others sameRoots => .pure ?_
    simp [BothAdd, Parser.addsSomething, same, sameRoots]
  · refine (expectWord _).andThen fun _ _ => (expectMark .at).andThen fun _ _ => ?_
    refine name.any.andThen fun _ _ => (annotations true).bind fun applied given same => .pure ?_
    simp [BothAdd, Parser.addsSomething, same]
  · exact typeContent keyword

/-- An extension is read together, if it adds anything. -/
theorem extension : Together Any Parser.extension Parser.extension := by
  refine lookahead.bind fun token also alike => ?_
  -- An extension names its keyword behind the current token.
  cases alike with
  | string | block | invalid => exact fail _ _
  | same =>
    cases token with
    | name keyword =>
      refine .ite ((expectWord "extend").andThen fun _ _ => ?_) (fail _ _)
      refine (extendedContent keyword).bind fun content other same => ?_
      rw [show Parser.addsSomething content = Parser.addsSomething other from same]
      exact .ite (.pure trivial) unexpected
    | _ => exact fail _ _

/-- The name of a fragment is read together; no string is one, whatever it says. -/
theorem fragmentName : Together Any Parser.fragmentName Parser.fragmentName := by
  refine onCurrentName (fun token => .ite unexpected name.any) fun token other rest => ?_
  split
  · exact ⟨⟨_, rfl⟩, _, rfl⟩
  · cases token with
    | name text => exact (other text rfl).elim
    | _ => exact ⟨⟨_, rfl⟩, _, rfl⟩

/-- Selections are read together, however deep they are. -/
theorem selectionsWithin (room : Nat) :
    Together Any (Parser.selectionsWithin room) (Parser.selectionsWithin room) := by
  induction room with
  | zero =>
    refine (atMark .braceOpen).bind ?_
    rintro opened _ rfl
    exact .ite ((fail _ _).andThen fun _ _ => (betweenMarks _ _ unexpected).any)
      (betweenMarks _ _ unexpected).any
  | succ room ih =>
    refine (betweenMarks _ _ ?_).any
    refine (skipMark .spread).bind ?_
    rintro spread _ rfl
    refine .ite ?_ ?_
    · -- A fragment with its condition, by its name, or with directives only.
      refine (skipWord "on").bind ?_
      rintro conditional _ rfl
      have inline (condition also : Option String) : Together Any
          (Parser.annotationsWithin false room >>= fun applied =>
            Parser.selectionsWithin room >>= fun below =>
              Pure.pure (Selection.inline condition applied below))
          (Parser.annotationsWithin false room >>= fun applied =>
            Parser.selectionsWithin room >>= fun below =>
              Pure.pure (Selection.inline also applied below)) :=
        (annotationsWithin false room).any.andThen fun _ _ => ih.andThen fun _ _ => .pure trivial
      refine .ite (name.any.andThen fun _ _ => inline _ _) ?_
      refine onCurrent (fun token => ?_) (fun _ _ => inline _ _) (fun _ _ => inline _ _)
        fun _ _ => inline _ _
      cases token with
      | name text =>
        exact fragmentName.andThen fun _ _ => (annotationsWithin false room).any.andThen
          fun _ _ => .pure trivial
      | _ => exact inline _ _
    · refine name.any.andThen fun first also => (skipMark .colon).bind ?_
      rintro renamed _ rfl
      refine .ite (name.any.andThen fun _ _ => ?_) ((pure trivial).andThen fun _ _ => ?_)
      all_goals
        refine (argumentsWithin false room).andThen fun _ _ => ?_
        refine (annotationsWithin false room).any.andThen fun _ _ => (atMark .braceOpen).bind ?_
        rintro opened _ rfl
        exact .ite (ih.andThen fun _ _ => .pure trivial)
          ((pure trivial).andThen fun _ _ => .pure trivial)

/-- Selections are read together. -/
theorem selections : Together Any Parser.selections Parser.selections :=
  selectionsWithin _

/-- A variable of an operation is read together. -/
theorem variableDefinition : Together Any Parser.variableDefinition Parser.variableDefinition :=
  description.andThen fun _ _ => variableName.andThen fun _ _ =>
    (expectMark .colon).andThen fun _ _ => typeReference.andThen fun _ _ =>
    default.andThen fun _ _ => (annotations true).any.andThen fun _ _ => .pure trivial

/-- An executable operation is read together. -/
theorem operation : Together Any Parser.operation Parser.operation := by
  refine (atMark .braceOpen).bind ?_
  rintro short _ rfl
  refine .ite (selections.andThen fun _ _ => .pure trivial) ?_
  refine description.andThen fun _ _ => operationKind.any.andThen fun _ _ => ?_
  -- What follows is read in one way, whether there is a name or not.
  have named (kind also : Root) (text other : Option String) (label given : Option String) :
      Together Any (Parser.optionalMany .parenOpen .parenClose Parser.variableDefinition >>=
        fun inputs => Parser.annotations false >>= fun applied => Parser.selections >>=
          fun below => Pure.pure (Definition.operation text kind label inputs applied below))
      (Parser.optionalMany .parenOpen .parenClose Parser.variableDefinition >>=
        fun inputs => Parser.annotations false >>= fun applied => Parser.selections >>=
          fun below => Pure.pure (Definition.operation other also given inputs applied below)) :=
    (optionalMany _ _ variableDefinition).any.andThen fun _ _ => (annotations false).any.andThen
      fun _ _ => selections.andThen fun _ _ => .pure trivial
  refine current.bind fun token also alike => ?_
  cases alike with
  | string | block | invalid => exact (pure trivial).andThen fun _ _ => named _ _ _ _ _ _
  | same =>
    cases token with
    | name text =>
      exact advance.andThen fun _ _ => (pure trivial).andThen fun _ _ => named _ _ _ _ _ _
    | _ => exact (pure trivial).andThen fun _ _ => named _ _ _ _ _ _

/-- A fragment of an operation is read together. -/
theorem fragment : Together Any Parser.fragment Parser.fragment :=
  description.andThen fun _ _ => (expectWord "fragment").andThen fun _ _ =>
    fragmentName.andThen fun _ _ => (expectWord "on").andThen fun _ _ =>
    name.any.andThen fun _ _ => (annotations false).any.andThen fun _ _ =>
    selections.andThen fun _ _ => .pure trivial

/-- A definition is read together. -/
theorem definition : Together Any Parser.definition Parser.definition := by
  refine (atMark .braceOpen).bind ?_
  rintro short _ rfl
  refine .ite operation (current.bind fun token also alike => ?_)
  have described : Parser.isDescription token = Parser.isDescription also := by
    cases alike <;> rfl
  rw [described]
  generalize Parser.isDescription also = isDescribed
  -- The keyword is the first token or the one behind a description.
  refine .ite (lookahead.bind fun keyword other alikeKeyword => ?_)
    (current.bind fun keyword other alikeKeyword => ?_)
  all_goals
    cases alikeKeyword with
    | string | block | invalid =>
      simp only [reduceCtorEq, and_false, if_false]
      exact fail _ _
    | same =>
      refine .ite ((fail _ _).andThen fun _ _ => ?_) ?_
      all_goals
        cases keyword with
        | name word =>
          exact .ite (description.andThen fun _ _ => (typeContent word).any.andThen fun _ _ =>
            .pure trivial) (.ite operation (.ite fragment (.ite (fail _ _)
              (.ite extension (fail _ _)))))
        | _ => exact fail _ _

/-- Definitions up to the end are read together. -/
theorem definitions (fuel : Nat) :
    Together Any (Parser.definitions fuel) (Parser.definitions fuel) := by
  induction fuel with
  | zero => exact unexpected
  | succ fuel ih =>
    refine definition.andThen fun _ _ => ?_
    have onward (first also : Definition) : Together Any
        (Parser.definitions fuel >>= fun others => Pure.pure (first :: others))
        (Parser.definitions fuel >>= fun others => Pure.pure (also :: others)) :=
      ih.andThen fun _ _ => .pure trivial
    -- No string is the end.
    refine onCurrent (fun _ => .ite (.pure trivial) ?_) (fun _ _ => ?_) (fun _ _ => ?_)
      fun _ _ => ?_
    all_goals exact onward _ _

end Together

/-- Texts with alike tokens are both documents, or neither is one. -/
theorem exists_parse_iff {text other : List Char}
    (alike : List.Forall₂ Token.Alike (lex text) (lex other)) :
    (∃ definitions, parse text = .ok definitions) ↔
      ∃ definitions, parse other = .ok definitions := by
  -- Behind the faults of the texts, the parsers end together.
  have parsed {tokens others : List Token} (alike : List.Forall₂ Token.Alike tokens others) :
      (∃ definitions, (Parser.definitions (tokens.length + 1) tokens).map (·.1) =
        .ok definitions) ↔
      ∃ definitions, (Parser.definitions (others.length + 1) others).map (·.1) =
        .ok definitions := by
    have ends := Together.definitions (tokens.length + 1) tokens others alike
    rw [← alike.length_eq]
    generalize Parser.definitions (tokens.length + 1) tokens = result,
      Parser.definitions (tokens.length + 1) others = outcome at ends ⊢
    cases ends <;> simp [Except.map]
  unfold parse
  generalize lex text = tokens, lex other = others at alike
  cases alike with
  | nil => exact parsed .nil
  | @cons token also rest behind own alike =>
    cases own with
    | string | block => exact parsed (.cons (by constructor) alike)
    | invalid => simp
    | same =>
      cases token with
      | invalid => simp
      | _ => exact parsed (.cons (.same _) alike)

end AppSync.Sdl
