import AppSync.Sdl.Definition
import AppSync.Sdl.Lexer

/-! Reading the definitions of a schema document. -/

namespace AppSync.Sdl

/-- Why tokens are no document. -/
inductive GrammarFault where
  | lexical (fault : LexicalFault)
  | expected (what : String) (found : Token)
  | unexpected (found : Token)
  | variableInConstant (name : String)
  | reservedEnumValue (found : Token)
  | describedSelection
  | describedExtension
  | nestedTooDeeply
deriving DecidableEq, Repr

/-- The sentence that states a fault. -/
def GrammarFault.message (fault : GrammarFault) : String :=
  "Syntax Error: " ++
    match fault with
    | .lexical fault => fault.message
    | .expected what found => s!"Expected {what}, found " ++ found.describe ++ "."
    | .unexpected found => "Unexpected " ++ found.describe ++ "."
    | .variableInConstant name => s!"Unexpected variable '${name}' in constant value."
    | .reservedEnumValue found =>
      found.describe ++ " is reserved and cannot be used for an enum value."
    | .describedSelection =>
      "Unexpected description, descriptions are not supported on shorthand queries."
    | .describedExtension =>
      "Unexpected description, only GraphQL definitions support descriptions."
    | .nestedTooDeeply => "Document is nested too deeply. Parsing aborted."

/-- A reader of tokens; the first token that is left is the current one. -/
abbrev Parser := StateT (List Token) (Except GrammarFault)

namespace Parser

variable {α : Type}

/-- Gives up with a fault. -/
def fail (fault : GrammarFault) : Parser α := fun _ => .error fault

/-- The current token. -/
def current : Parser Token := fun tokens => .ok (tokens.headD .finish, tokens)

/-- Gives up because of the current token. -/
def unexpected : Parser α := do fail (.unexpected (← current))

/-- Passes over the current token, which needs a readable one behind it. -/
def advance : Parser Unit := fun tokens =>
  match tokens with
  | _ :: .invalid fault :: _ => .error (.lexical fault)
  | _ :: rest => .ok ((), rest)
  | [] => .ok ((), [])

/-- The token behind the current one. -/
def lookahead : Parser Token := fun tokens =>
  match tokens with
  | _ :: .invalid fault :: _ => .error (.lexical fault)
  | _ :: next :: _ => .ok (next, tokens)
  | _ => .ok (.finish, tokens)

/-- Whether the current token is a mark. -/
def atMark (mark : Mark) : Parser Bool := do
  return (← current) == .mark mark

/-- Passes over a mark that has to be there. -/
def expectMark (mark : Mark) : Parser Unit := do
  let found ← current
  if found = .mark mark then advance else fail (.expected ("'" ++ mark.text ++ "'") found)

/-- Passes over a mark if it is there, and tells whether it was. -/
def skipMark (mark : Mark) : Parser Bool := do
  if ← atMark mark then
    advance
    return true
  else return false

/-- Passes over a word that has to be there. -/
def expectWord (word : String) : Parser Unit := do
  let found ← current
  if found = .name word then advance else fail (.expected s!"'{word}'" found)

/-- Passes over a word if it is there, and tells whether it was. -/
def skipWord (word : String) : Parser Bool := do
  if (← current) = .name word then
    advance
    return true
  else return false

/-- A name. -/
def name : Parser String := do
  match ← current with
  | .name text =>
    advance
    return text
  | found => fail (.expected "Name" found)

/-- Items up to a closing mark, which may come at once. -/
def untilMark (close : Mark) (item : Parser α) : Nat → Parser (List α)
  | 0 => unexpected
  | fuel + 1 => do
    if ← skipMark close then return []
    let first ← item
    return first :: (← untilMark close item fuel)

/-- As `untilMark`; every item takes a token, so their count is fuel enough. -/
def closedBy (close : Mark) (item : Parser α) : Parser (List α) := fun tokens =>
  untilMark close item (tokens.length + 1) tokens

/-- Items between marks, none included. -/
def any (opening close : Mark) (item : Parser α) : Parser (List α) := do
  expectMark opening
  closedBy close item

/-- Items between marks, of which there has to be one. -/
def many (opening close : Mark) (item : Parser α) : Parser (List α) := do
  expectMark opening
  let first ← item
  return first :: (← closedBy close item)

/-- Items between marks if the opening one is there, and then at least one of them. -/
def optionalMany (opening close : Mark) (item : Parser α) : Parser (List α) := do
  if ← atMark opening then many opening close item else return []

/-- Further items, each behind a delimiter. -/
def delimitedRest (delimiter : Mark) (item : Parser α) : Nat → Parser (List α)
  | 0 => unexpected
  | fuel + 1 => do
    if ← skipMark delimiter then
      let first ← item
      return first :: (← delimitedRest delimiter item fuel)
    else return []

/-- Items with delimiters between them; one delimiter may stand before the first item. -/
def delimited (delimiter : Mark) (item : Parser α) : Parser (List α) := do
  let _ ← skipMark delimiter
  let first ← item
  let others ← fun tokens => delimitedRest delimiter item (tokens.length + 1) tokens
  return first :: others

/-- A name, a colon and what follows it. -/
def labelled (item : Parser α) : Parser (String × α) := do
  let label ← name
  expectMark .colon
  return (label, ← item)

/-- A variable. -/
def variableName : Parser String := do
  expectMark .dollar
  name

/-- The literal that a name is. -/
def wordLiteral (word : String) : Literal :=
  if word = "true" then .boolean true
  else if word = "false" then .boolean false
  else if word = "null" then .null
  else .enum word

/-- How deep lists, objects and selections may nest in one another. -/
def nestingLimit : Nat := 200

/-- A literal that is no collection, in which a constant admits no variable. -/
def plainLiteral (constant : Bool) : Parser Literal := do
  let found ← current
  match found with
  | .integer text => advance; return .integer text
  | .decimal text => advance; return .decimal text
  | .string value => advance; return .string value
  | .block value => advance; return .block value
  | .name word => advance; return wordLiteral word
  | .mark .dollar =>
    if constant then
      expectMark .dollar
      match ← current with
      | .name variableName => fail (.variableInConstant variableName)
      | _ => fail (.unexpected found)
    else return .variable (← variableName)
  | _ => fail (.unexpected found)

/-- A literal whose collections nest no deeper than there is room for. -/
def literalWithin (constant : Bool) : Nat → Parser Literal
  | 0 => do
    if (← atMark .bracketOpen) || (← atMark .braceOpen) then fail .nestedTooDeeply
    else plainLiteral constant
  | room + 1 => do
    if ← atMark .bracketOpen then
      return .list (← any .bracketOpen .bracketClose (literalWithin constant room))
    else if ← atMark .braceOpen then
      return .object (← any .braceOpen .braceClose (labelled (literalWithin constant room)))
    else plainLiteral constant

/-- A constant. -/
def constant : Parser Literal :=
  literalWithin true nestingLimit

/-- Arguments in parentheses, if there are any. -/
def argumentsWithin (constant : Bool) (room : Nat) : Parser (List (String × Literal)) :=
  optionalMany .parenOpen .parenClose (labelled (literalWithin constant room))

/-- Directives as long as there are some; each takes a token of the fuel. -/
def annotationsFrom (constant : Bool) (room : Nat) : Nat → Parser (List Annotation)
  | 0 => unexpected
  | fuel + 1 => do
    if ← skipMark .at then
      let label ← name
      let given ← argumentsWithin constant room
      return ⟨label, given⟩ :: (← annotationsFrom constant room fuel)
    else return []

/-- Directives whose arguments nest no deeper than there is room for. -/
def annotationsWithin (constant : Bool) (room : Nat) : Parser (List Annotation) := fun tokens =>
  annotationsFrom constant room (tokens.length + 1) tokens

/-- Directives that stand outside of selections. -/
def annotations (constant : Bool) : Parser (List Annotation) :=
  annotationsWithin constant nestingLimit

/-- A reference to a type whose lists nest no deeper than there is room for. -/
def typeWithin : Nat → Parser TypeReference
  | 0 => do
    if ← atMark .bracketOpen then fail .nestedTooDeeply
    let type := TypeReference.named (← name)
    if ← skipMark .bang then return .nonNull type else return type
  | room + 1 => do
    let type ←
      if ← skipMark .bracketOpen then
        let element ← typeWithin room
        expectMark .bracketClose
        pure (TypeReference.list element)
      else pure (TypeReference.named (← name))
    if ← skipMark .bang then return .nonNull type else return type

/-- A reference to a type. -/
def typeReference : Parser TypeReference :=
  typeWithin nestingLimit

/-- A description, if there is one. -/
def description : Parser (Option String) := do
  match ← current with
  | .string value => advance; return some value
  | .block value => advance; return some value
  | _ => return none

/-- The constant behind an equals sign, if there is one. -/
def default : Parser (Option Literal) := do
  if ← skipMark .equals then return some (← constant) else return none

/-- An argument of a definition, or a field of an input. -/
def inputDefinition : Parser InputDefinition := do
  let description ← description
  let (label, type) ← labelled typeReference
  let default ← default
  return ⟨description, label, type, default, ← annotations true⟩

/-- Arguments of a definition, if there are any. -/
def argumentDefinitions : Parser (List InputDefinition) :=
  optionalMany .parenOpen .parenClose inputDefinition

/-- A field of an object or interface. -/
def fieldDefinition : Parser FieldDefinition := do
  let description ← description
  let label ← name
  let given ← argumentDefinitions
  expectMark .colon
  let type ← typeReference
  return ⟨description, label, given, type, ← annotations true⟩

/-- The words that name no value of an enum. -/
def reservedValues : List String := ["true", "false", "null"]

/-- The text of a token, if it has one. -/
def textOf? : Token → Option String
  | .name text => some text
  | .integer text => some text
  | .decimal text => some text
  | .string value => some value
  | .block value => some value
  | _ => none

/-- A value of an enum. -/
def enumValueDefinition : Parser EnumValueDefinition := do
  let description ← description
  let found ← current
  if (textOf? found).any reservedValues.contains then fail (.reservedEnumValue found)
  let label ← name
  return ⟨description, label, ← annotations true⟩

/-- The kind of operations that a word names. -/
def rootOfWord? (word : String) : Option Root :=
  Root.all.find? fun root => root.keyword = word

/-- The word for a kind of operations. -/
def operationKind : Parser Root := do
  let found ← current
  let word ← name
  match rootOfWord? word with
  | some root => return root
  | none => fail (.unexpected found)

/-- A kind of operations and its root type. -/
def rootDefinition : Parser (Root × String) := do
  let root ← operationKind
  expectMark .colon
  return (root, ← name)

/-- The interfaces behind their word, if it is there. -/
def interfaces : Parser (List String) := do
  if ← skipWord "implements" then delimited .amp name else return []

/-- The members of a union behind an equals sign, if it is there. -/
def unionMembers : Parser (List String) := do
  if ← skipMark .equals then delimited .pipe name else return []

/-- The places where a directive may stand. -/
def directivePlaces : List String :=
  ["QUERY", "MUTATION", "SUBSCRIPTION", "FIELD", "FRAGMENT_DEFINITION", "FRAGMENT_SPREAD",
    "INLINE_FRAGMENT", "VARIABLE_DEFINITION", "FRAGMENT_VARIABLE_DEFINITION", "SCHEMA", "SCALAR",
    "OBJECT", "FIELD_DEFINITION", "ARGUMENT_DEFINITION", "INTERFACE", "UNION", "ENUM",
    "ENUM_VALUE", "INPUT_OBJECT", "INPUT_FIELD_DEFINITION", "DIRECTIVE_DEFINITION"]

/-- A place where a directive may stand. -/
def directivePlace : Parser String := do
  let found ← current
  let place ← name
  if directivePlaces.contains place then return place else fail (.unexpected found)

/-- The content of a definition of the type system, chosen by its keyword. -/
def typeContent (keyword : String) : Parser TypeContent := do
  expectWord keyword
  match keyword with
  | "schema" =>
    let applied ← annotations true
    return .schema applied (← many .braceOpen .braceClose rootDefinition)
  | "scalar" =>
    let label ← name
    return .scalar label (← annotations true)
  | "type" =>
    let label ← name
    let parents ← interfaces
    let applied ← annotations true
    return .object label parents applied (← optionalMany .braceOpen .braceClose fieldDefinition)
  | "interface" =>
    let label ← name
    let parents ← interfaces
    let applied ← annotations true
    return .interface label parents applied (← optionalMany .braceOpen .braceClose fieldDefinition)
  | "union" =>
    let label ← name
    let applied ← annotations true
    return .union label applied (← unionMembers)
  | "enum" =>
    let label ← name
    let applied ← annotations true
    return .enum label applied (← optionalMany .braceOpen .braceClose enumValueDefinition)
  | "input" =>
    let label ← name
    let applied ← annotations true
    return .input label applied (← optionalMany .braceOpen .braceClose inputDefinition)
  -- Of the keywords only the one for directives is left.
  | _ =>
    expectMark .at
    let label ← name
    let given ← argumentDefinitions
    let applied ← annotations true
    let repeatable ← skipWord "repeatable"
    expectWord "on"
    return .directive label given applied repeatable (← delimited .pipe directivePlace)

/-- Whether an extension adds anything. -/
def addsSomething : TypeContent → Bool
  | .schema applied roots => !applied.isEmpty || !roots.isEmpty
  | .scalar _ applied => !applied.isEmpty
  | .object _ parents applied fields => !parents.isEmpty || !applied.isEmpty || !fields.isEmpty
  | .interface _ parents applied fields => !parents.isEmpty || !applied.isEmpty || !fields.isEmpty
  | .union _ applied members => !applied.isEmpty || !members.isEmpty
  | .enum _ applied values => !applied.isEmpty || !values.isEmpty
  | .input _ applied fields => !applied.isEmpty || !fields.isEmpty
  | .directive _ _ applied _ _ => !applied.isEmpty

/-- The keywords of what can be extended. -/
def extensible : List String :=
  ["schema", "scalar", "type", "interface", "union", "enum", "input", "directive"]

/-- What an extension says; a schema may leave out its roots, and a directive is not redefined. -/
def extendedContent (keyword : String) : Parser TypeContent := do
  match keyword with
  | "schema" =>
    expectWord keyword
    let applied ← annotations true
    return .schema applied (← optionalMany .braceOpen .braceClose rootDefinition)
  | "directive" =>
    expectWord keyword
    expectMark .at
    let label ← name
    return .directive label [] (← annotations true) false []
  | _ => typeContent keyword

/-- An extension, which has to add something. -/
def extension : Parser Definition := do
  let next ← lookahead
  match next with
  | .name keyword =>
    if extensible.contains keyword then
      expectWord "extend"
      let content ← extendedContent keyword
      if addsSomething content then return .extension content else unexpected
    else fail (.unexpected next)
  | _ => fail (.unexpected next)

/-- The name of a fragment, which is not the word that comes before a condition. -/
def fragmentName : Parser String := do
  if textOf? (← current) = some "on" then unexpected else name

/-- Selections in braces that nest no deeper than there is room for. -/
def selectionsWithin : Nat → Parser (List Selection)
  | 0 => do
    if ← atMark .braceOpen then fail .nestedTooDeeply
    any .braceOpen .braceClose unexpected
  | room + 1 => any .braceOpen .braceClose do
    let selections := selectionsWithin room
    if ← skipMark .spread then
      if ← skipWord "on" then
        let condition ← name
        let applied ← annotationsWithin false room
        return .inline (some condition) applied (← selections)
      -- Behind a spread stands the name of a fragment, or a fragment without a name.
      match ← current with
      | .name _ =>
        let fragment ← fragmentName
        return .spread fragment (← annotationsWithin false room)
      | _ =>
        let applied ← annotationsWithin false room
        return .inline none applied (← selections)
    else
      let first ← name
      let renamed ← skipMark .colon
      let label ← if renamed then name else pure first
      let given ← argumentsWithin false room
      let applied ← annotationsWithin false room
      let below ← if ← atMark .braceOpen then selections else pure []
      return .field (if renamed then some first else none) label given applied below

/-- Selections in braces. -/
def selections : Parser (List Selection) :=
  selectionsWithin nestingLimit

/-- A variable of an executable operation. -/
def variableDefinition : Parser VariableDefinition := do
  let description ← description
  let label ← variableName
  expectMark .colon
  let type ← typeReference
  let default ← default
  return ⟨description, label, type, default, ← annotations true⟩

/-- An executable operation. -/
def operation : Parser Definition := do
  if ← atMark .braceOpen then
    return .operation none .query none [] [] (← selections)
  let description ← description
  let kind ← operationKind
  let label ← match ← current with
    | .name text => do advance; pure (some text)
    | _ => pure none
  let inputs ← optionalMany .parenOpen .parenClose variableDefinition
  let applied ← annotations false
  return .operation description kind label inputs applied (← selections)

/-- A fragment of an executable operation. -/
def fragment : Parser Definition := do
  let description ← description
  expectWord "fragment"
  let label ← fragmentName
  expectWord "on"
  let condition ← name
  let applied ← annotations false
  return .fragment description label condition applied (← selections)

/-- The keywords of definitions of the type system. -/
def typeKeywords : List String :=
  ["schema", "scalar", "type", "interface", "union", "enum", "input", "directive"]

/-- Whether a token can be a description. -/
def isDescription : Token → Bool
  | .string _ => true
  | .block _ => true
  | _ => false

/-- A definition, recognised by its keyword behind an optional description. -/
def definition : Parser Definition := do
  if ← atMark .braceOpen then operation
  else
    let described := isDescription (← current)
    let keyword ← if described then lookahead else current
    -- An operation that leaves out its keyword may not be described.
    if described ∧ keyword = .mark .braceOpen then fail .describedSelection
    match keyword with
    | .name word =>
      if typeKeywords.contains word then
        let description ← description
        return .type description (← typeContent word)
      else if (rootOfWord? word).isSome then operation
      else if word = "fragment" then fragment
      else if described then fail .describedExtension
      else if word = "extend" then extension
      else fail (.unexpected keyword)
    | _ => fail (.unexpected keyword)

/-- Definitions up to the end of the document. -/
def definitions : Nat → Parser (List Definition)
  | 0 => unexpected
  | fuel + 1 => do
    let first ← definition
    if (← current) = .finish then return [first]
    return first :: (← definitions fuel)

end Parser

/-- The definitions of a text, of which there has to be one. -/
def parse (text : List Char) : Except GrammarFault (List Definition) :=
  match lex text with
  | .invalid fault :: _ => .error (.lexical fault)
  | tokens => (Parser.definitions (tokens.length + 1) tokens).map (·.1)

end AppSync.Sdl
