import AppSync.Proofs.Sdl.Printing

/-! What the printer writes of a whole schema, block by block, and the definitions it is seen as. -/

namespace AppSync.Sdl

/-- Sorting by name keeps the items. -/
theorem mem_sortedBy {α : Type} {name : α → String} {items : List α} {item : α} :
    item ∈ sortedBy name items ↔ item ∈ items :=
  (List.mergeSort_perm items _).mem_iff

/-- Sorting by name leaves nothing where there is nothing. -/
theorem isEmpty_sortedBy {α : Type} (name : α → String) (items : List α) :
    (sortedBy name items).isEmpty = items.isEmpty :=
  (List.mergeSort_perm items _).isEmpty_eq

/-- The name of a root type and the word for its operations are names of the language. -/
theorem isName_root (root : Root) : isName root.keyword = true ∧ isName root.name = true := by
  cases root <;> decide

namespace Shows

variable {view : View} {room : Nat}

/-- Members in braces stand behind a header, sorted by name. -/
theorem braced {α β : Type} {header : String} {head : List Token}
    (shows : Shows view header.toList head) (name : α → String) {items : List α}
    {meanings : List β} {written : α → List String} {meant : β → List Token}
    (each : List.Forall₂ (fun item meaning => Shows view (onLines (written item)) (meant meaning))
      (sortedBy name items) meanings) :
    Shows view (onLines (if items.isEmpty then [header]
        else (header ++ " \x7b") :: (sortedBy name items).flatMap written ++ ["\x7d"]))
      (head ++ enclosed .braceOpen .braceClose meant meanings) := by
  have inside := members each
  unfold enclosed
  rw [← isEmpty_sortedBy name items]
  generalize sortedBy name items = sorted at each inside
  -- Without members there are no braces.
  cases each with
  | nil =>
    simp only [List.isEmpty_nil, if_true, List.append_nil]
    exact line shows
  | cons first others =>
    have opening : Shows view (header ++ " \x7b").toList (head ++ [.mark .braceOpen]) :=
      shows.followed (.cons (by decide) _) (.separator rfl (.mark rfl (by decide) .nil))
    have closing : Shows view (onLines ["\x7d"]) [.mark .braceClose] :=
      line (.mark rfl (by decide) .nil)
    have printed := (line opening).lines (inside.lines closing)
    simpa only [List.isEmpty_cons, Bool.false_eq_true, if_false, List.append_assoc,
      List.cons_append, List.nil_append] using printed

/-- The schema block is seen as the definition that names the roots. -/
theorem schemaBlock {roots : List Root} {text description : Option String}
    (described : ShowsDescription view text "" description) :
    Shows view (onLines (Sdl.schemaBlock roots text))
      (Definition.type description
        (.schema [] (roots.map fun root => (root, root.name)))).tokens := by
  have opening : Shows view (onLines ["schema \x7b"]) ([.name "schema"] ++ [.mark .braceOpen]) :=
    line ((@name view "schema" rfl).append (.cons (by decide) _)
      (.separator rfl (.mark rfl (by decide) .nil)))
  have closing : Shows view (onLines ["\x7d"]) [.mark .braceClose] :=
    line (.mark rfl (by decide) .nil)
  have each (root : Root) : Shows view
      (onLines [memberIndent ++ (root.keyword ++ (": " ++ root.name))])
      (rootTokens (root, root.name)) :=
    indentedLine memberIndent_blank
      (labelled (isName_root root).1 (name (isName_root root).2))
  have inside : Shows view
      (onLines (roots.flatMap fun root => [memberIndent ++ (root.keyword ++ (": " ++ root.name))]))
      (roots.flatMap fun root => rootTokens (root, root.name)) :=
    members (List.forall₂_same.mpr fun root _ => each root)
  have printed := described.lines (opening.lines (inside.lines closing))
  -- The block as it is printed, cut where its tokens are.
  have written : Sdl.schemaBlock roots text = Sdl.description text "" ++ (["schema \x7b"] ++
      ((roots.flatMap fun root => [memberIndent ++ (root.keyword ++ (": " ++ root.name))]) ++
        ["\x7d"])) := by
    simp [Sdl.schemaBlock, ← List.map_eq_flatMap, String.append_assoc]
  rw [written]
  simpa [Definition.tokens, TypeContent.tokens, List.flatMap_map] using printed

/-- A header is a keyword with a name behind it, and with directives. -/
theorem header {keyword label : String} (known : isName keyword = true)
    (named : isName label = true) {applied : List Directive} {annotations : List Annotation}
    (shows : List.Forall₂ (ShowsDirective view) applied annotations) :
    Shows view (keyword ++ " " ++ label ++ Sdl.directives applied).toList
      (.name keyword :: .name label :: annotations.flatMap Applied.tokens) := by
  -- The blanks between keyword, name and directives belong to what is behind them.
  have behind : Shows view (" " ++ (label ++ Sdl.directives applied)).toList
      (.name label :: annotations.flatMap Applied.tokens) := by
    rw [String.toList_append]
    exact .separator rfl ((name named).followed (.directives applied) (directives shows))
  have printed := (name known).followed (.front rfl (by decide) _) behind
  simpa only [String.append_assoc, List.cons_append, List.nil_append] using printed

/-- The members of a union stand behind its header. -/
theorem unionBlock {type : NamedType} {unionMembers : List String} (named : isName type.name = true)
    {annotations : List Annotation}
    (shows : List.Forall₂ (ShowsDirective view) type.directives annotations)
    (each : ∀ member ∈ unionMembers, isName member = true) :
    Shows view (onLines (Sdl.unionBlock type unionMembers))
      (.name "union" :: .name type.name ::
        (annotations.flatMap Applied.tokens ++ TypeContent.memberTokens unionMembers)) := by
  have head := @header view "union" type.name rfl named type.directives annotations shows
  have written : "union " ++ type.name ++ Sdl.directives type.directives =
      "union" ++ " " ++ type.name ++ Sdl.directives type.directives := rfl
  unfold Sdl.unionBlock
  rw [written]
  generalize "union" ++ " " ++ type.name ++ Sdl.directives type.directives = text at head
  -- Without members the header stands alone.
  cases unionMembers with
  | nil =>
    rw [TypeContent.memberTokens, List.append_nil]
    exact line head
  | cons first others =>
    -- Each member but the first stands behind a mark.
    have stops : ∀ member ∈ others, Stops view (" | ".toList ++ member.toList) :=
      fun member _ => .cons (by decide) _
    have further : Shows view (others.flatMap fun member => " | ".toList ++ member.toList)
        (others.flatMap fun member => [.mark .pipe, .name member]) := by
      refine .flatMap stops (List.forall₂_same.mpr fun member found => ?_)
      exact .separator rfl (.mark rfl (by decide) (.separator rfl
        (name (each member (List.mem_cons_of_mem first found)))))
    have listed : Shows view (String.intercalate " | " (first :: others)).toList
        (.name first :: others.flatMap fun member => [.mark .pipe, .name member]) := by
      rw [toList_intercalate_cons]
      exact (name (each first List.mem_cons_self)).append (.flatMap stops) further
    have behind : Shows view (" = " ++ String.intercalate " | " (first :: others)).toList
        (TypeContent.memberTokens (first :: others)) := by
      rw [String.toList_append]
      exact .separator rfl (.mark rfl (by decide) (.separator rfl listed))
    have printed := line (head.followed (.front rfl (by decide) _) behind)
    simp only [List.isEmpty_cons, Bool.false_eq_true, if_false, String.append_assoc]
    exact printed

/-- An enum has its values in braces. -/
theorem enumBlock {type : NamedType} (named : isName type.name = true) {values : List EnumValue}
    {definitions : List EnumValueDefinition}
    (each : List.Forall₂ (ShowsEnumValue view) (sortedBy EnumValue.name values) definitions) :
    Shows view (onLines (Sdl.enumBlock type values))
      (.name "enum" :: .name type.name ::
        enclosed .braceOpen .braceClose EnumValueDefinition.tokens definitions) := by
  have head : Shows view ("enum " ++ type.name).toList (.name "enum" :: [.name type.name]) := by
    rw [String.toList_append]
    exact (@name view "enum" rfl).append (.cons (by decide) _) (.separator rfl (name named))
  exact head.braced EnumValue.name (each.imp fun _ _ => enumValue)

/-- A named type is seen as its definition. -/
theorem typeBlock {type : NamedType} {definition : Definition}
    (shows : ShowsType view room type definition) :
    Shows view (onLines (Sdl.typeBlock type)) definition.tokens := by
  obtain ⟨named, described, body⟩ := shows
  unfold Sdl.typeBlock
  refine described.lines ?_
  generalize type.body = shown at body
  -- Each kind of type has its block; three of them are made of fields.
  cases body with
  | object applied each =>
    exact (header rfl named applied).braced Field.name (each.imp fun _ _ => field)
  | input applied each =>
    exact (header rfl named applied).braced Field.name (each.imp fun _ _ => input)
  | interface applied each =>
    exact (header rfl named applied).braced Field.name (each.imp fun _ _ => field)
  | enum each => exact enumBlock named each
  | union applied each => exact unionBlock named applied each

/-- A root type that is present is seen as an object with its operations. -/
theorem rootBlock {operations : List Operation} {root : Root} {definition : Definition}
    (shows : ShowsRoot view room operations root definition)
    (present : ∃ operation ∈ operations, operation.root = root) :
    Shows view (onLines (Sdl.rootBlock operations root)) definition.tokens := by
  obtain ⟨each⟩ := shows
  -- A root that is present has an operation, so its block has braces.
  have own_some : (operations.filter fun operation => operation.root = root).isEmpty = false := by
    obtain ⟨operation, member, belongs⟩ := present
    rw [List.isEmpty_eq_false_iff_exists_mem]
    exact ⟨operation, by simp [member, belongs]⟩
  have head : Shows view ("type " ++ root.name).toList [.name "type", .name root.name] := by
    rw [String.toList_append]
    exact (@name view "type" rfl).append (.cons (by decide) _)
      (.separator rfl (name (isName_root root).2))
  have printed := head.braced Operation.fieldName (each.imp fun _ _ => operation)
  rw [own_some, if_neg Bool.false_ne_true] at printed
  exact printed

end Shows

/-- Blocks, each behind an empty line. -/
def onBlocks (blocks : List (List String)) : List Char :=
  blocks.flatMap fun block => '\n' :: onLines block

namespace Shows

variable {view : View} {room : Nat}

/-- Blocks are seen one after the other. -/
theorem onBlocks_append {first second : List (List String)} {tokens others : List Token}
    (shows : Shows view (onBlocks first) tokens)
    (showsOthers : Shows view (onBlocks second) others) :
    Shows view (onBlocks (first ++ second)) (tokens ++ others) := by
  have parted : onBlocks (first ++ second) = onBlocks first ++ onBlocks second :=
    List.flatMap_append
  rw [parted]
  exact shows.append (.flatMap fun _ _ => .cons (by decide) _) showsOthers

/-- A block for each of some items is seen as a definition for each. -/
theorem onBlocks_map {α : Type} {items : List α} {block : α → List String}
    {definitions : List Definition}
    (each : List.Forall₂ (fun item definition => Shows view (onLines (block item))
      definition.tokens) items definitions) :
    Shows view (onBlocks (items.map block)) (definitions.flatMap Definition.tokens) := by
  unfold onBlocks
  rw [List.flatMap_map]
  exact flatMap (fun _ _ => .cons (by decide) _) (each.imp fun _ _ => .separator rfl)

/-- The blocks of a document are seen as its definitions. -/
theorem blocks {types : List NamedType} {operations : List Operation} {text : Option String}
    {definitions : List Definition}
    (shows : ShowsDocument view room types operations text definitions) :
    Shows view (onBlocks (Sdl.blocks types operations text))
      (definitions.flatMap Definition.tokens) := by
  obtain @⟨heading, named, roots, headed, each, rooted⟩ := shows
  have present : ∀ root ∈ Schema.presentRoots operations,
      ∃ operation ∈ operations, operation.root = root := by
    intro root member
    simpa using (List.mem_filter.mp member).2
  -- The three groups of blocks are those of the definitions.
  have first : Shows view (onBlocks (if (Schema.presentRoots operations).isEmpty then []
        else [Sdl.schemaBlock (Schema.presentRoots operations) text]))
      (heading.flatMap Definition.tokens) := by
    cases headed with
    | none rootless =>
      rw [rootless]
      exact nil
    | some rooted described =>
      rw [if_neg (by simpa using rooted)]
      have one := @onBlocks_map view _ [Schema.presentRoots operations]
        (fun roots => Sdl.schemaBlock roots text) _ (.cons (schemaBlock described) .nil)
      exact one
  have second := onBlocks_map (each.imp fun _ _ => typeBlock)
  have third : Shows view
      (onBlocks ((Schema.presentRoots operations).map (Sdl.rootBlock operations)))
      (roots.flatMap Definition.tokens) :=
    onBlocks_map (((List.forall₂_and_left _ _).mpr ⟨present, rooted⟩).imp
      fun root definition both => rootBlock both.2 both.1)
  rw [List.flatMap_append, List.flatMap_append]
  exact (first.onBlocks_append second).onBlocks_append third

end Shows

end AppSync.Sdl
