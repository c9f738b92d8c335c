import AppSync.Proofs.Sdl.Numeral
import AppSync.Proofs.Sdl.Shown

/-! What the printer writes of a schema, part by part, and the tokens that it is seen as. -/

namespace AppSync.Sdl

/-- Items with a separator between them are the first and, each behind the separator, the others. -/
theorem toList_intercalate_cons (separator first : String) (others : List String) :
    (String.intercalate separator (first :: others)).toList =
      first.toList ++ others.flatMap fun item => separator.toList ++ item.toList := by
  -- Each further item brings the separator in front of it.
  induction others generalizing first with
  | nil => simp
  | cons second others ih =>
    rw [String.intercalate_cons_cons, String.toList_append, String.toList_append, ih,
      List.flatMap_cons, List.append_assoc, List.append_assoc]

namespace Stops

variable {view : View}

/-- A directive begins with a blank. -/
theorem directive (applied : Directive) : Stops view (directive applied).toList := by
  -- With arguments or without them, the blank comes first.
  have begins : ∃ tail, (Sdl.directive applied).toList = ' ' :: tail := by
    unfold Sdl.directive
    cases applied.arguments with
    | nil => exact ⟨'@' :: applied.name.toList, by simp⟩
    | cons first others =>
      simp only [List.isEmpty_cons, Bool.false_eq_true, if_false, String.toList_append]
      exact ⟨_, rfl⟩
  obtain ⟨tail, begins⟩ := begins
  rw [begins]
  exact cons (by decide) tail

/-- Directives begin with a blank, or there are none. -/
theorem directives (applied : List Directive) : Stops view (directives applied).toList := by
  unfold Sdl.directives
  rw [String.toList_join, List.flatMap_map]
  exact .flatMap fun one _ => directive one

/-- The mark of a deprecated member begins with a blank, if it is there. -/
theorem deprecationIf (isDeprecated : Bool) (reason : Option String) :
    Stops view (deprecationIf isDeprecated reason).toList := by
  cases isDeprecated with
  | false => exact nil
  | true =>
    unfold Sdl.deprecationIf deprecation
    simp only [if_true]
    split
    · simp only [String.toList_append]
      exact cons (by decide) _
    · exact cons (by decide) _

/-- Lines begin with a line break. -/
theorem onLines (lines : List String) : Stops view (onLines lines) :=
  .flatMap fun _ _ => cons (by decide) _

end Stops

namespace Shows

variable {view : View} {α β : Type} {written : α → String} {meant : β → List Token}
  {items : List α} {meanings : List β} {text : List Char} {tokens : List Token}

/-- Items with commas between them are seen as what each of them is. -/
theorem commaSeparated (shows : List.Forall₂
    (fun item meaning => Shows view (written item).toList (meant meaning)) items meanings) :
    Shows view (String.intercalate ", " (items.map written)).toList (meanings.flatMap meant) := by
  -- The first item is written by itself, each other one behind a comma and a blank.
  cases shows with
  | nil => exact nil
  | @cons first meaning others _ own further =>
    rw [List.map_cons, toList_intercalate_cons, List.flatMap_map, List.flatMap_cons]
    refine own.append (.flatMap fun item _ => ?_) (.flatMap (fun item _ => ?_) ?_)
    · exact .cons (by decide) _
    · exact .cons (by decide) _
    · exact further.imp fun item other shows => .separator rfl (.separator rfl shows)

/-- A list of texts is seen as a list of strings. -/
theorem texts {values said : List String} (each : List.Forall₂ (ShowsText view) values said) :
    Shows view (literal (.texts values)).toList (Literal.list (said.map .string)).tokens := by
  -- The texts stand between brackets, with commas that are no tokens.
  have listed : Shows view (String.intercalate ", " (values.map Json.quote)).toList
      (said.flatMap fun text => [.string text]) := commaSeparated each
  have written : (literal (.texts values)).toList =
      '[' :: ((String.intercalate ", " (values.map Json.quote)).toList ++ [']']) := by
    simp only [literal, String.toList_append]
    rfl
  have meant : (Literal.list (said.map .string)).tokens =
      .mark .bracketOpen :: ((said.flatMap fun text => [.string text]) ++
        [.mark .bracketClose]) := by
    simp [Literal.tokens, Literal.itemTokens_eq, List.flatMap_map]
  rw [written, meant]
  exact .mark rfl (by decide) (listed.append (.cons (by decide) _) (.mark rfl (by decide) .nil))

/-- A literal is seen as the tokens of its constant. -/
theorem value {value : DirectiveValue} {constant : Literal}
    (shows : ShowsValue view value constant) :
    Shows view (literal value).toList constant.tokens := by
  -- Words and numbers hold no parentheses, so that they are seen as they are written.
  cases shows with
  | flag value =>
    cases value with
    | true => exact @name view "true" rfl
    | false => exact @name view "false" rfl
  | integer value => exact of_plain (.integer value) (by simp [Literal.tokens, Token.isText])
  | decimal finite => exact of_plain (.decimal finite) (by simp [Literal.tokens, Token.isText])
  | text shows => exact shows
  | texts each => exact texts each

/-- The arguments of a directive are seen as those that are given. -/
theorem directiveArguments {arguments : List (String × DirectiveValue)}
    {given : List (String × Literal)}
    (each : List.Forall₂ (fun argument meant => isName argument.1 = true ∧
      meant.1 = argument.1 ∧ ShowsValue view argument.2 meant.2) arguments given) :
    Shows view (String.intercalate ", " (arguments.map directiveArgument)).toList
      (given.flatMap Literal.labelledTokens) := by
  refine commaSeparated (each.imp fun argument own fits => ?_)
  obtain ⟨labels, same, shows⟩ := fits
  unfold directiveArgument Literal.labelledTokens
  rw [String.append_assoc, same]
  exact labelled labels (value shows)

/-- The name of the first argument keeps the parenthesis in front of it. -/
theorem opened_directiveArguments {first : String × DirectiveValue} (named : isName first.1 = true)
    (others : List (String × DirectiveValue)) (rest : List Char) : Opened
      ((String.intercalate ", " ((first :: others).map directiveArgument)).toList ++ [')'] ++
        rest) := by
  rw [List.map_cons, toList_intercalate_cons, directiveArgument, String.append_assoc,
    String.toList_append]
  simp only [List.append_assoc]
  exact (begins_name named).opened _

/-- A directive is seen as one with its name and arguments. -/
theorem directive {applied : Directive} {meant : Annotation}
    (shows : ShowsDirective view applied meant) :
    Shows view (directive applied).toList (Applied.tokens meant) := by
  obtain ⟨_, arguments, _, _⟩ := applied
  obtain ⟨label, given⟩ := meant
  obtain ⟨named, rfl, each⟩ := shows
  dsimp only at named each
  have listed := directiveArguments each
  -- The arguments go between parentheses, which are left out where there are none.
  unfold Sdl.directive Applied.tokens
  cases each with
  | nil =>
    have written : (" @" ++ label).toList = ' ' :: '@' :: label.toList := by simp
    simp only [enclosed, List.isEmpty_nil, if_true]
    rw [written]
    exact .separator rfl (.mark rfl (by decide) (name named))
  | @cons first meaning others further own _ =>
    have written : (" @" ++ label ++ "(" ++
        String.intercalate ", " ((first :: others).map directiveArgument) ++ ")").toList =
        ' ' :: '@' :: (label.toList ++ '(' ::
          ((String.intercalate ", " ((first :: others).map directiveArgument)).toList ++
            [')'])) := by
      simp only [String.toList_append, List.append_assoc]
      rfl
    have enclosing : enclosed .parenOpen .parenClose Literal.labelledTokens (meaning :: further) =
        .mark .parenOpen :: ((meaning :: further).flatMap Literal.labelledTokens ++
          [.mark .parenClose]) := by
      simp [enclosed]
    have opened := opened_directiveArguments own.1 others
    simp only [List.isEmpty_cons, Bool.false_eq_true, if_false]
    rw [written, enclosing]
    refine .separator rfl (.mark rfl (by decide) ?_)
    refine (name named).append (.opening opened) (.opening opened ?_)
    exact listed.append (.cons (by decide) _) (.mark rfl (by decide) .nil)

/-- Directives are seen one after the other. -/
theorem directives {applied : List Directive} {annotations : List Annotation}
    (shows : List.Forall₂ (ShowsDirective view) applied annotations) :
    Shows view (directives applied).toList (annotations.flatMap Applied.tokens) := by
  unfold Sdl.directives
  rw [String.toList_join, List.flatMap_map]
  exact flatMap (fun one _ => .directive one) (shows.imp fun _ _ => directive)

/-- The mark of a deprecated member is seen with the reason that it gives. -/
theorem deprecation {isDeprecated : Bool} {reason : Option String} {marks : List Annotation}
    (shows : ShowsDeprecation view reason isDeprecated marks) :
    Shows view (deprecationIf isDeprecated reason).toList (marks.flatMap Applied.tokens) := by
  unfold deprecationIf Sdl.deprecation
  cases shows with
  | none => exact nil
  | bare unsaid shows =>
    rw [if_pos rfl, unsaid]
    exact shows
  | @reason text said given shows =>
    have written : (" @deprecated(reason: " ++ Json.quote text ++ ")").toList =
        ' ' :: '@' :: ("deprecated".toList ++ '(' :: ("reason".toList ++ ':' :: ' ' ::
          ((Json.quote text).toList ++ [')']))) := by
      simp
    have meant : [(⟨"deprecated", [("reason", .string said)]⟩ : Annotation)].flatMap
        Applied.tokens = .mark .at :: ([.name "deprecated"] ++ .mark .parenOpen ::
          ([.name "reason"] ++ .mark .colon :: ([.string said] ++ [.mark .parenClose]))) := by
      simp [Applied.tokens, enclosed, Literal.labelledTokens, Literal.tokens]
    -- The parenthesis stays, since the name behind it is not blank.
    have opened (rest : List Char) : Opened ("reason".toList ++ ':' :: ' ' ::
        ((Json.quote text).toList ++ [')']) ++ rest) := by
      rw [List.append_assoc]
      exact (@begins_name "reason" rfl).opened _
    rw [if_pos rfl, given]
    dsimp only
    rw [written, meant]
    refine .separator rfl (.mark rfl (by decide) ?_)
    refine (@name view "deprecated" rfl).append (.opening opened) (.opening opened ?_)
    refine (@name view "reason" rfl).append (.cons (by decide) _) (.mark rfl (by decide) ?_)
    refine .separator rfl (shows.append (.cons (by decide) _) ?_)
    exact .mark rfl (by decide) .nil

/-- A line of a document is seen as what its text is. -/
theorem line {line : String} (shows : Shows view line.toList tokens) :
    Shows view (onLines [line]) tokens := by
  have written : onLines [line] = '\n' :: line.toList := by simp [onLines]
  rw [written]
  exact .separator rfl shows

/-- An indented line is seen as what its text is. -/
theorem indentedLine {indent line : String} (blank : ∀ c ∈ indent.toList, isIndent c = true)
    (shows : Shows view line.toList tokens) : Shows view (onLines [indent ++ line]) tokens := by
  refine .line ?_
  rw [String.toList_append]
  exact .blanks (fun c member => isSeparator_of_isIndent (blank c member)) shows

/-- Lines are seen one after the other. -/
theorem lines {first second : List String} {tokens others : List Token}
    (shows : Shows view (onLines first) tokens) (showsOthers : Shows view (onLines second) others) :
    Shows view (onLines (first ++ second)) (tokens ++ others) := by
  -- The second lines begin with a line break, which ends any token.
  rw [onLines_append]
  exact shows.append (.onLines second) showsOthers

/-- Members are seen one after the other, each on lines of its own. -/
theorem members {written : α → List String}
    (shows : List.Forall₂ (fun item meaning => Shows view (onLines (written item)) (meant meaning))
      items meanings) :
    Shows view (onLines (items.flatMap written)) (meanings.flatMap meant) := by
  unfold onLines
  rw [List.flatMap_assoc]
  exact flatMap (fun item _ => .onLines (written item)) shows

end Shows

/-- The indentation of members is blank. -/
theorem memberIndent_blank : ∀ c ∈ memberIndent.toList, isIndent c = true :=
  List.all_eq_true.mp rfl

/-- The indentation of arguments is blank. -/
theorem argumentIndent_blank : ∀ c ∈ argumentIndent.toList, isIndent c = true :=
  List.all_eq_true.mp rfl

/-- A type is written in names and marks other than parentheses. -/
theorem TypeReference.plain_tokens (type : TypeReference) :
    ∀ token ∈ type.tokens, token ≠ .mark .parenOpen ∧ token.isText = false := by
  induction type with
  | named name => simp [tokens, Token.isText]
  | list element ih =>
    intro token member
    simp only [tokens, List.cons_append, List.mem_cons, List.mem_append, List.not_mem_nil,
      or_false] at member
    rcases member with rfl | member | rfl
    · simp [Token.isText]
    · exact ih token member
    · simp [Token.isText]
  | nonNull type ih =>
    intro token member
    simp only [tokens, List.mem_append, List.mem_singleton] at member
    rcases member with member | rfl
    · exact ih token member
    · simp [Token.isText]

variable {view : View} {room : Nat}

/-- A text that is written for a type is seen as that type. -/
theorem ShowsReference.of_scans {text : String} {type : TypeReference}
    (scans : Scans text.toList type.tokens []) (fits : type.Fits room) :
    ShowsReference view room text type :=
  ⟨.of_plain (.of_scans scans) type.plain_tokens, fits⟩

/-- A type is seen with the mark that rules null out, where it does not do so itself. -/
theorem ShowsReference.marked {text : String} {type : TypeReference} {isNullable : Bool}
    (shows : ShowsReference view room text type)
    (nullable : isNullable = false → type.isNonNull = false) :
    ShowsReference view room (typeText text isNullable)
      (if isNullable then type else .nonNull type) := by
  -- The mark behind a type does not join its last token.
  cases isNullable with
  | true => exact shows
  | false =>
    have written : (typeText text false).toList = text.toList ++ ['!'] := by simp [typeText]
    refine ⟨?_, nullable rfl, shows.room⟩
    rw [written]
    exact shows.shows.append (.cons (by decide) _) (.mark rfl (by decide) .nil)

/-- A text that is written for a constant, and seen as one, is seen as it in front of others. -/
theorem ShowsConstant.of_scans {text : String} {written literal : Literal}
    (scans : Scans text.toList written.tokens [])
    (seen : Scans (view.see text.toList) literal.tokens []) (fits : literal.Fits room) :
    ShowsConstant view room text literal := by
  obtain ⟨front, parted, apart⟩ := scans.apart view written.closed_tokens
  rw [List.append_nil] at parted
  exact ⟨.of_scans (parted ▸ apart) seen, fits⟩

namespace Shows

variable {tokens : List Token}

/-- A field stands on its line behind its description. -/
theorem fieldLines {field : Field} {description : Option String} {type : TypeReference}
    {annotations marks : List Annotation}
    (member : ShowsMember view room field description type annotations marks) :
    Shows view (onLines (Sdl.fieldLines field)) (descriptionTokens description ++
      (.name field.name :: .mark .colon ::
        (type.tokens ++ (annotations ++ marks).flatMap Applied.tokens))) := by
  have stops : Stops view (Sdl.directives field.directives ++
      deprecationIf field.isDeprecated field.deprecationReason).toList := by
    rw [String.toList_append]
    exact (Stops.directives _).append (.deprecationIf _ _)
  -- Behind the type stand the directives, with the mark of a deprecated member as the last.
  have marked := (directives member.applied).followed (.deprecationIf _ _)
    (deprecation member.deprecated)
  rw [← List.flatMap_append] at marked
  have own := indentedLine memberIndent_blank
    (labelled member.named (member.typed.shows.followed stops marked))
  have written : Sdl.fieldLines field = Sdl.description field.description memberIndent ++
      [memberIndent ++ (field.name ++ (": " ++ (typeText field.type field.isNullable ++
        (Sdl.directives field.directives ++
          deprecationIf field.isDeprecated field.deprecationReason))))] := by
    simp only [Sdl.fieldLines, String.append_assoc]
  rw [written]
  exact member.described.lines own

/-- A field of an object or interface is seen as its definition. -/
theorem field {field : Field} {definition : FieldDefinition}
    (shows : ShowsField view room field definition) :
    Shows view (onLines (Sdl.fieldLines field)) definition.tokens := by
  obtain ⟨member⟩ := shows
  simpa [FieldDefinition.tokens, enclosed] using fieldLines member

/-- A field of an input is seen as its definition. -/
theorem input {field : Field} {definition : InputDefinition}
    (shows : ShowsInput view room field definition) :
    Shows view (onLines (Sdl.fieldLines field)) definition.tokens := by
  obtain ⟨member⟩ := shows
  simpa [InputDefinition.tokens, defaultTokens] using fieldLines member

/-- A value of an enum is seen as its definition. -/
theorem enumValue {value : EnumValue} {definition : EnumValueDefinition}
    (shows : ShowsEnumValue view value definition) :
    Shows view (onLines (Sdl.enumValueLines value)) definition.tokens := by
  obtain ⟨named, -, described, deprecated⟩ := shows
  -- Behind the name stands the mark of a deprecated value, or nothing.
  have own := indentedLine memberIndent_blank
    ((name named).followed (.deprecationIf _ _) (deprecation deprecated))
  have written : Sdl.enumValueLines value = Sdl.description value.description memberIndent ++
      [memberIndent ++ (value.name ++
        deprecationIf value.isDeprecated value.deprecationReason)] := by
    simp only [Sdl.enumValueLines, String.append_assoc]
  rw [written]
  exact described.lines own

/-- The text of an argument is seen as its definition without the description. -/
theorem argumentText {argument : Argument} {type : TypeReference} {default : Option Literal}
    (named : isName argument.name = true)
    (typed : ShowsReference view room (typeText argument.type argument.isNullable) type)
    (defaulted : Option.Rel (ShowsConstant view room) argument.defaultValue default) :
    Shows view (Sdl.argumentText argument).toList
      (.name argument.name :: .mark .colon :: (type.tokens ++ defaultTokens default)) := by
  unfold Sdl.argumentText
  rw [String.append_assoc, String.append_assoc]
  generalize argument.defaultValue = value at defaulted
  refine labelled named (typed.shows.followed ?_ ?_)
  · cases defaulted with
    | none => exact .nil
    | some => exact .front rfl (by decide) _
  · -- The default stands behind its sign, if there is one.
    cases defaulted with
    | none => exact nil
    | @some text literal own =>
      have written : (" = " ++ text).toList = ' ' :: '=' :: ' ' :: text.toList := by simp
      dsimp only
      rw [written]
      exact .separator rfl (.mark rfl (by decide) (.separator rfl own.shows))

/-- Arguments on lines of their own are seen as their definitions. -/
theorem argumentLines {arguments : List Argument} {definitions : List InputDefinition}
    (shows : List.Forall₂ (ShowsArgument view room) arguments definitions) :
    Shows view (onLines (Sdl.argumentLines arguments))
      (definitions.flatMap InputDefinition.tokens) := by
  -- All arguments but the last have a comma, which the tokens do not tell.
  induction shows with
  | nil => exact nil
  | @cons argument definition others further own rest ih =>
    obtain ⟨named, described, -, typed, defaulted⟩ := own
    have text := argumentText named typed defaulted
    cases rest with
    | nil =>
      have printed := described.lines (indentedLine argumentIndent_blank text)
      simpa [InputDefinition.tokens, Sdl.argumentLines] using printed
    | @cons second meaning more _ next rest =>
      have comma : Shows view (Sdl.argumentText argument ++ ",").toList _ :=
        text.followed (.cons (by decide) []) (.separator rfl .nil)
      have printed :=
        (described.lines (indentedLine argumentIndent_blank comma)).lines ih
      rw [Sdl.argumentLines.eq_3 argument (second :: more) (by simp), String.append_assoc]
      simpa [InputDefinition.tokens] using printed

/-- Arguments without descriptions are seen on one line. -/
theorem plainArguments {arguments : List Argument} {definitions : List InputDefinition}
    (shows : List.Forall₂ (ShowsArgument view room) arguments definitions)
    (plain : ∀ argument ∈ arguments, isDescribed argument.description = false) :
    Shows view (String.intercalate ", " (arguments.map Sdl.argumentText)).toList
      (definitions.flatMap InputDefinition.tokens) := by
  refine commaSeparated ?_
  induction shows with
  | nil => exact .nil
  | @cons argument definition others further own _ ih =>
    refine .cons ?_ (ih fun other member => plain other (List.mem_cons_of_mem _ member))
    -- Without a text there is no description among the tokens.
    obtain ⟨named, -, undescribed, typed, defaulted⟩ := own
    rw [undescribed (plain argument List.mem_cons_self)]
    simpa [InputDefinition.tokens, descriptionTokens] using argumentText named typed defaulted

/-- What an operation returns is seen behind a colon, with its directives. -/
theorem result {returned : String} {type : TypeReference} {applied : List Directive}
    {annotations : List Annotation} (typed : ShowsReference view room returned type)
    (shows : List.Forall₂ (ShowsDirective view) applied annotations) :
    Shows view (": " ++ returned ++ Sdl.directives applied).toList
      (.mark .colon :: (type.tokens ++ annotations.flatMap Applied.tokens)) := by
  have own := typed.shows.followed (.directives applied) (directives shows)
  rw [String.append_assoc, String.toList_append]
  exact .mark rfl (by decide) (.separator rfl own)

/-- A line that begins with more than its indentation keeps a parenthesis in front of it. -/
theorem opened_onLines {text : String} (begins : Begins text.toList) (others : List String)
    (rest : List Char) : Opened (onLines ((argumentIndent ++ text) :: others) ++ rest) := by
  have written : onLines ((argumentIndent ++ text) :: others) ++ rest =
      ('\n' :: argumentIndent.toList) ++ (text.toList ++ (onLines others ++ rest)) := by
    simp [onLines]
  have blank : ∀ c ∈ '\n' :: argumentIndent.toList, Text.isBlank c = true :=
    List.all_eq_true.mp (by decide +kernel)
  rw [written]
  exact (begins.opened _).blanks blank

/-- Arguments on lines of their own keep the parenthesis in front of them. -/
theorem opened_argumentLines {argument : Argument} (named : isName argument.name = true)
    (others : List Argument) (rest : List Char) :
    Opened (onLines (Sdl.argumentLines (argument :: others)) ++ rest) := by
  -- The first line begins with quotes or with the name.
  have begins (marks : String) : Begins (Sdl.argumentText argument ++ marks).toList := by
    unfold Sdl.argumentText
    simp only [String.toList_append, List.append_assoc]
    exact (begins_name named).append _
  have described (lines : List String) (opened : Opened (onLines lines ++ rest)) :
      Opened (onLines (Sdl.description argument.description argumentIndent ++ lines) ++ rest) := by
    unfold Sdl.description
    cases argument.description.filter (· ≠ "") with
    | none => exact opened
    | some value =>
      exact opened_onLines ⟨'"', rfl, by decide, by decide⟩ _ rest
  cases others with
  | nil =>
    rw [Sdl.argumentLines]
    refine described _ ?_
    have own := opened_onLines (begins "") [] rest
    rwa [String.append_empty] at own
  | cons second more =>
    rw [Sdl.argumentLines.eq_3 argument (second :: more) (by simp), List.append_assoc]
    refine described _ ?_
    rw [List.singleton_append, String.append_assoc]
    exact opened_onLines (begins ",") _ rest

/-- Arguments on one line keep the parenthesis in front of them. -/
theorem opened_argumentTexts {argument : Argument} (named : isName argument.name = true)
    (others : List Argument) (rest : List Char) :
    Opened ((String.intercalate ", " ((argument :: others).map Sdl.argumentText)).toList ++
      rest) := by
  rw [List.map_cons, toList_intercalate_cons, Sdl.argumentText]
  simp only [String.toList_append, List.append_assoc]
  exact (begins_name named).opened _

/-- Arguments on lines of their own stand between a name and what comes behind them. -/
theorem argumentsBelow {label result : String} {head others : List Token} {inside : List String}
    (named : Shows view label.toList head) (given : Shows view (onLines inside) tokens)
    (opened : ∀ rest, Opened (onLines inside ++ rest))
    (returned : Shows view result.toList others) :
    Shows view
      (onLines ((memberIndent ++ label ++ "(") :: inside ++ [memberIndent ++ ")" ++ result]))
      (head ++ .mark .parenOpen :: (tokens ++ .mark .parenClose :: others)) := by
  -- The parenthesis behind the arguments begins a line of its own.
  have closing := indentedLine memberIndent_blank
    (@behind view _ ")" result ')' .parenClose rfl rfl (by decide) returned)
  have written : onLines ((memberIndent ++ label ++ "(") :: inside ++
      [memberIndent ++ ")" ++ result]) = '\n' :: (memberIndent.toList ++ (label.toList ++
        '(' :: (onLines inside ++ onLines [memberIndent ++ (")" ++ result)]))) := by
    simp [onLines, String.append_assoc]
  have kept (rest : List Char) : Opened
      (onLines inside ++ onLines [memberIndent ++ (")" ++ result)] ++ rest) := by
    rw [List.append_assoc]
    exact opened _
  rw [written]
  have blank := fun c member => isSeparator_of_isIndent (memberIndent_blank c member)
  refine .separator rfl (.blanks blank (named.append (.opening kept) ?_))
  exact .opening kept (given.append (.onLines _) closing)

/-- Arguments on one line stand between a name and what comes behind them. -/
theorem argumentsBeside {label given result : String} {head others : List Token}
    (named : Shows view label.toList head) (shows : Shows view given.toList tokens)
    (opened : ∀ rest, Opened (given.toList ++ rest))
    (returned : Shows view result.toList others) :
    Shows view (onLines [memberIndent ++ label ++ "(" ++ given ++ ")" ++ result])
      (head ++ .mark .parenOpen :: (tokens ++ .mark .parenClose :: others)) := by
  have closing := @behind view _ ")" result ')' .parenClose rfl rfl (by decide) returned
  have written : memberIndent ++ label ++ "(" ++ given ++ ")" ++ result =
      memberIndent ++ (label ++ ("(" ++ (given ++ (")" ++ result)))) := by
    simp only [String.append_assoc]
  have text : ("(" ++ (given ++ (")" ++ result))).toList =
      '(' :: (given.toList ++ (")" ++ result).toList) := by
    simp
  have kept (rest : List Char) : Opened (given.toList ++ (")" ++ result).toList ++ rest) := by
    rw [List.append_assoc]
    exact opened _
  rw [written]
  -- The opening parenthesis ends the name, and the closing one ends the arguments.
  refine indentedLine memberIndent_blank (named.followed ?_ ?_) <;> rw [text]
  · exact .opening kept
  · exact .opening kept (shows.append (.front rfl (by decide) result) closing)

/-- An operation is seen as a field of its root type. -/
theorem operation {operation : Operation} {definition : FieldDefinition}
    (shows : ShowsOperation view room operation definition) :
    Shows view (onLines (Sdl.operationLines operation)) definition.tokens := by
  obtain ⟨named, described, given, typed, applied⟩ := shows
  have returned := result typed applied
  have stops : Stops view
      (": " ++ operation.returnType ++ Sdl.directives operation.directives).toList := by
    rw [String.append_assoc]
    exact .front rfl (by decide) _
  unfold Sdl.operationLines
  simp only [FieldDefinition.tokens, List.append_assoc, List.cons_append]
  refine described.lines ?_
  -- The result stands behind the name, or behind the arguments on one line or on several.
  generalize ": " ++ operation.returnType ++ Sdl.directives operation.directives = result
    at returned stops
  have onOwnLines := argumentLines given
  have onOneLine := plainArguments given
  have named : Shows view operation.fieldName.toList [.name operation.fieldName] := name named
  generalize operation.arguments = arguments at given onOwnLines onOneLine
  cases given with
  | nil =>
    simp only [List.isEmpty_nil, if_true, enclosed, List.nil_append, String.append_assoc]
    exact indentedLine memberIndent_blank (named.followed stops returned)
  | @cons first meaning others further own _ =>
    have label : isName first.name = true := by
      cases own
      assumption
    have enclosing : enclosed .parenOpen .parenClose InputDefinition.tokens (meaning :: further) =
        .mark .parenOpen :: ((meaning :: further).flatMap InputDefinition.tokens ++
          [.mark .parenClose]) := by
      simp [enclosed]
    rw [enclosing]
    simp only [List.isEmpty_cons, Bool.false_eq_true, if_false, List.cons_append,
      List.append_assoc, List.nil_append]
    split
    · exact argumentsBelow named onOwnLines (opened_argumentLines label others) returned
    · rename_i undescribed
      have plain : ∀ argument ∈ first :: others, isDescribed argument.description = false := by
        simpa using undescribed
      exact argumentsBeside named (onOneLine plain) (opened_argumentTexts label others) returned

end Shows

end AppSync.Sdl
