import AppSync.Proofs.Yaml.Lexer
import AppSync.Yaml.Document

/-!
Putting the tokens of a YAML text together: what stops it is a fault, or what stopped the tokens.
-/

namespace AppSync.Yaml.Composing

variable {α : Type} {whole : List Char}

/-- The failure behind the tokens is one of a text. -/
def Knows (whole : List Char) (reader : Reader) : Prop :=
  ∀ failure, reader.failure = some failure → Refuses whole failure

/-- A program that leaves the failure behind the tokens, and fails for what is wrong with the text. -/
abbrev Composes (whole : List Char) (program : Composing α) : Prop :=
  Keeps (Knows whole) (Refuses whole) program

/-! ## Steps -/

section Steps

/-- A fault may be thrown. -/
@[grind ←]
theorem composes_throw (fault : Fault) : Composes whole (throw (.fault fault) : Composing α) :=
  .throw (.fault fault)

/-- Behind a fault nothing matters. -/
@[grind ←]
theorem composes_throw_bind {β : Type} (fault : Fault) (next : β → Composing α) :
    Composes whole (throw (.fault fault) >>= next) :=
  fun _ _ => .fault fault

/-- A change that leaves the failure behind the tokens. -/
@[grind ←]
theorem composes_modify {change : Reader → Reader}
    (same : ∀ reader, (change reader).failure = reader.failure) :
    Composes whole (modify change) := by
  refine .modify fun reader knows failure failed => knows failure ?_
  rw [← same, failed]

/-- Looking at the next token, or failing with the tokens. -/
@[grind ←]
theorem composes_peek : Composes whole peek := by
  unfold peek
  refine .bind_get fun reader knows => ?_
  split
  · exact .pure _
  · rename_i failed
    exact .throw (knows _ failed)
  · exact .pure _

/-- Taking the next token. -/
@[grind ←]
theorem composes_take : Composes whole take :=
  .bind composes_peek fun _ => .bind (composes_modify fun _ => rfl) fun _ => .pure _

/-- Asking about the next token. -/
@[grind ←]
theorem composes_isNext (member : Lexeme → Bool) : Composes whole (isNext member) :=
  .bind composes_peek fun _ => .pure _

/-- A token that does not fit is a fault. -/
@[grind ←]
theorem composes_unfit (activity : Activity) (start : Mark) (problem : String → Problem) :
    Composes whole (unfit activity start problem : Composing α) :=
  .bind composes_peek fun _ => .throw (.fault _)

/-- Behind a token that does not fit nothing matters. -/
@[grind ←]
theorem composes_unfit_bind {β : Type} (activity : Activity) (start : Mark)
    (problem : String → Problem) (next : β → Composing α) :
    Composes whole (unfit activity start problem >>= next) := by
  unfold unfit
  rw [bind_assoc]
  exact .bind composes_peek fun _ _ _ => .fault _

/-- Numbers of collections. -/
@[grind ←]
theorem composes_number : Composes whole number :=
  .bind_get fun _ knows => .bind (.set knows) fun _ => .pure _

/-- Names of nodes. -/
@[grind ←]
theorem composes_name (anchor : Option String) (node : Node) :
    Composes whole (name anchor node) := by
  cases anchor with
  | none => exact .pure ()
  | some anchor => exact composes_modify fun _ => rfl

/-- Names of whole collections. -/
@[grind ←]
theorem composes_nameWhole (anchor : Option String) (number : Nat) (node : Node) :
    Composes whole (nameWhole anchor number node) :=
  .ite (fun _ => composes_modify fun _ => rfl) fun _ => .pure _

/-- Properties of nodes. -/
@[grind ←]
theorem composes_properties (sofar : Properties) (fuel : Nat) :
    Composes whole (properties sofar fuel) := by
  induction fuel generalizing sofar with
  | zero => exact .pure _
  | succ fuel ih =>
    unfold properties
    grind

/-- Tags with their handles, which may be unknown. -/
@[grind ←]
theorem composes_wholeTag (start tagMark : Mark) (handle : Option String) (suffix : String) :
    Composes whole (wholeTag start tagMark handle suffix) := by
  unfold wholeTag
  grind

/-- Names that may be taken. -/
@[grind ←]
theorem composes_checkAnchor (anchor : Option String) (start : Mark) :
    Composes whole (checkAnchor anchor start) := by
  unfold checkAnchor
  grind

/-- Collections, which stand for themselves by name while their parts are read. -/
theorem composes_collection {β : Type} (anchor : Option String) (start : Mark) (begun : Nat → Node)
    (made : Nat → β → Node) {read : Composing β} (reads : Composes whole read) :
    Composes whole (do
      checkAnchor anchor start
      let number ← number
      name anchor (begun number)
      let parts ← read
      nameWhole anchor number (made number parts)
      return made number parts) := by
  -- Of its steps only the anchor that is taken already, and the parts, can fail.
  refine .bind (composes_checkAnchor _ _) fun _ => .bind composes_number fun number => ?_
  refine .bind (composes_name _ _) fun _ => .bind reads fun parts => ?_
  exact .bind (composes_nameWhole _ _ _) fun _ => .pure _

end Steps

/-! ## Nodes -/

/-- With some fuel, nodes and the parts of nodes are put together so. -/
structure PartsCompose (whole : List Char) (fuel : Nat) : Prop where
  node (position : Position) : Composes whole (node position fuel)
  blockItems (start : Option Mark) : Composes whole (blockItems start fuel)
  blockEntries (start : Mark) : Composes whole (blockEntries start fuel)
  blockValue : Composes whole (blockValue fuel)
  flowItems (start : Mark) (isFirst : Bool) : Composes whole (flowItems start isFirst fuel)
  flowEntries (start : Mark) (isFirst : Bool) : Composes whole (flowEntries start isFirst fuel)
  flowPart (closing : Lexeme) (mark : Mark) : Composes whole (flowPart closing mark fuel)
  flowValue (closing : Lexeme) : Composes whole (flowValue closing fuel)

namespace PartsCompose

variable {fuel : Nat}

/-- A node is an alias, or has the form that its first token gives it. -/
theorem node_succ (parts : PartsCompose whole fuel) (position : Position) :
    Composes whole (Composing.node position (fuel + 1)) := by
  unfold Composing.node
  refine .bind composes_peek fun first => ?_
  dsimp only
  split
  · refine .bind composes_take fun _ => .bind_get fun reader knows => ?_
    split
    · exact .pure _
    · exact composes_throw_bind _ _
  · refine .bind (composes_properties _ _) fun given => ?_
    -- The form of the node does not depend on whether it has a tag.
    split
    all_goals
      refine .bind ?_ fun tag => .bind composes_peek fun token => ?_
      · grind
      · split
        · exact composes_collection _ _ _ _ (parts.blockItems _)
        · grind
        · exact composes_collection _ _ _ _ (.bind composes_take fun _ => parts.flowItems _ _)
        · exact composes_collection _ _ _ _ (.bind composes_take fun _ => parts.flowEntries _ _)
        · exact composes_collection _ _ _ _ (.bind composes_take fun _ => parts.blockItems _)
        · exact composes_collection _ _ _ _ (.bind composes_take fun _ => parts.blockItems _)
        · exact composes_collection _ _ _ _ (.bind composes_take fun _ => parts.blockEntries _)
        · exact composes_collection _ _ _ _ (.bind composes_take fun _ => parts.blockEntries _)
        · grind

/-- The items of a list in brackets, of which all but the first need a separator. -/
theorem flowItems_succ (parts : PartsCompose whole fuel) (start : Mark) (isFirst : Bool) :
    Composes whole (Composing.flowItems start isFirst (fuel + 1)) := by
  obtain ⟨nodes, -, -, -, flowItems, -, flowPart, flowValue⟩ := parts
  unfold Composing.flowItems
  refine .bind (composes_isNext _) fun ended => .ite (fun more => ?_) fun _ => ?_
  · refine .ite (fun later => .bind (composes_isNext _) fun separated => ?_) fun first => ?_
    · grind
    · grind
  · grind

/-- The entries of a mapping in braces, of which all but the first need a separator. -/
theorem flowEntries_succ (parts : PartsCompose whole fuel) (start : Mark) (isFirst : Bool) :
    Composes whole (Composing.flowEntries start isFirst (fuel + 1)) := by
  obtain ⟨nodes, -, -, -, -, flowEntries, flowPart, flowValue⟩ := parts
  unfold Composing.flowEntries
  refine .bind (composes_isNext _) fun ended => .ite (fun more => ?_) fun _ => ?_
  · grind
  · grind

end PartsCompose

/-- Whatever the fuel is, nodes and their parts are put together so. -/
theorem partsCompose (fuel : Nat) : PartsCompose whole fuel := by
  -- Nodes and their parts call each other with less fuel, and without any do nothing.
  induction fuel with
  | zero =>
    exact ⟨fun _ => .pure _, fun _ => .pure _, fun _ => .pure _, .pure _, fun _ _ => .pure _,
      fun _ _ => .pure _, fun _ _ => .pure _, fun _ => .pure _⟩
  | succ fuel parts =>
    have nodes := parts.node
    have items := parts.blockItems
    have entries := parts.blockEntries
    have value := parts.blockValue
    refine ⟨parts.node_succ, fun start => ?blockItems, fun start => ?blockEntries, ?blockValue,
      parts.flowItems_succ, parts.flowEntries_succ, fun closing mark => ?flowPart,
      fun closing => ?flowValue⟩
    case blockItems =>
      unfold Composing.blockItems
      grind
    case blockEntries =>
      unfold Composing.blockEntries
      grind
    case blockValue =>
      unfold Composing.blockValue
      grind
    case flowPart =>
      unfold Composing.flowPart
      grind
    case flowValue =>
      unfold Composing.flowValue
      grind

/-- Nodes. -/
@[grind ←]
theorem composes_node (position : Position) (fuel : Nat) :
    Composes whole (node position fuel) :=
  (partsCompose fuel).node position

/-! ## Documents -/

section Documents

/-- Directives. -/
@[grind ←]
theorem composes_directives (hasVersion : Bool) (handles : List (String × String)) (fuel : Nat) :
    Composes whole (directives hasVersion handles fuel) := by
  induction fuel generalizing hasVersion handles with
  | zero => exact .pure _
  | succ fuel ih =>
    unfold directives
    grind

/-- Ends of documents. -/
@[grind ←]
theorem composes_skipDocumentEnds (fuel : Nat) : Composes whole (skipDocumentEnds fuel) := by
  induction fuel with
  | zero => exact .pure ()
  | succ fuel ih =>
    unfold skipDocumentEnds
    grind

/-- Starts of documents with a sign. -/
@[grind ←]
theorem composes_explicitStart (fuel : Nat) : Composes whole (explicitStart fuel) := by
  unfold explicitStart
  refine .bind (composes_skipDocumentEnds _) fun _ => .bind composes_peek fun first => ?_
  refine .ite (fun _ => .pure _) fun _ => ?_
  refine .bind (composes_directives _ _ _) fun handles => .bind composes_peek fun token => ?_
  refine .ite (fun _ => composes_throw_bind _ _) fun _ => .bind composes_take fun _ => ?_
  exact .bind (composes_modify fun _ => rfl) fun _ => .pure _

/-- Contents of documents. -/
@[grind ←]
theorem composes_content (fuel : Nat) : Composes whole (content fuel) := by
  unfold content
  grind

/-- The first document. -/
@[grind ←]
theorem composes_firstDocument (fuel : Nat) : Composes whole (firstDocument fuel) := by
  unfold firstDocument
  refine .bind composes_peek fun first => .ite (fun signed => ?_) fun _ => ?_
  · grind
  · exact .bind (composes_modify fun _ => rfl) fun _ => .bind (composes_node _ _) fun _ => .pure _

/-- The only document. -/
theorem composes_onlyDocument (fuel : Nat) : Composes whole (onlyDocument fuel) := by
  unfold onlyDocument
  refine .bind composes_take fun _ => .bind (composes_firstDocument _) fun root? => ?_
  cases root? with
  | none => exact .pure none
  | some root => grind

end Documents

end AppSync.Yaml.Composing

namespace AppSync.Yaml

/-- A text without a node is refused for a fault, or for an escape beyond the last character. -/
theorem nodeOf_refuses {text : List Char} {failure : Failure}
    (refused : nodeOf text = .error failure) : Refuses text failure := by
  have knows : Composing.Knows text ⟨(tokens text).1, (tokens text).2, [], [], 0⟩ :=
    fun _ failed => refuses_tokens failed
  have ends := Composing.composes_onlyDocument (4 * (tokens text).1.length + 8) _ knows
  -- What the tokens fail with is known to the composer, which fails with it or by itself.
  unfold nodeOf at refused
  dsimp only at refused
  rw [StateT.run'_eq] at refused
  cases ended : (Composing.onlyDocument (4 * (tokens text).1.length + 8)).run
      ⟨(tokens text).1, (tokens text).2, [], [], 0⟩ with
  | ok found =>
    rw [ended] at refused
    cases refused
  | error other =>
    rw [ended] at refused
    cases refused
    exact ends.of_error ended

end AppSync.Yaml
