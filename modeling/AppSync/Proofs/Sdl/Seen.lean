import AppSync.Proofs.Sdl.Edges

/-! A printed schema is parsed, through a view, as the definitions that its parts are seen as. -/

namespace AppSync.Sdl

variable {view : View} {room : Nat}

/-- A constant in a directive has room: nothing in it is nested but a list of texts. -/
theorem ShowsValue.fits {value : DirectiveValue} {constant : Literal}
    (shows : ShowsValue view value constant) : constant.Fits Parser.nestingLimit := by
  -- Only a list of texts is a collection, and its items are none.
  cases shows with
  | texts each =>
    intro item member
    obtain ⟨text, -, rfl⟩ := List.mem_map.mp member
    exact trivial
  | _ => exact trivial

/-- A directive has room. -/
theorem ShowsDirective.fits {applied : Directive} {meant : Annotation}
    (shows : ShowsDirective view applied meant) : Applied.Fits meant :=
  forall_of_forall₂_right shows.arguments fun _ _ own => own.2.2.fits

/-- The mark of a deprecated member has room. -/
theorem ShowsDeprecation.fits {reason : Option String} {isDeprecated : Bool}
    {marks : List Annotation} (shows : ShowsDeprecation view reason isDeprecated marks) :
    ∀ mark ∈ marks, Applied.Fits mark := by
  intro mark member
  -- Its one argument, if any, is a string, which needs no room.
  cases shows with
  | none => cases member
  | bare =>
    rw [List.mem_singleton.mp member]
    exact fun argument given => nomatch given
  | reason =>
    rw [List.mem_singleton.mp member]
    intro argument given
    rw [List.mem_singleton.mp given]
    exact trivial

/-- Directives have room. -/
theorem fits_annotations {applied : List Directive} {annotations : List Annotation}
    (shows : List.Forall₂ (ShowsDirective view) applied annotations) :
    ∀ annotation ∈ annotations, Applied.Fits annotation :=
  forall_of_forall₂_right shows fun _ _ => ShowsDirective.fits

/-- The directives of a member and the mark that it is deprecated have room. -/
theorem ShowsMember.fits {field : Field} {description : Option String}
    {type : TypeReference} {annotations marks : List Annotation}
    (member : ShowsMember view room field description type annotations marks) :
    ∀ annotation ∈ annotations ++ marks, Applied.Fits annotation :=
  List.forall_mem_append.mpr ⟨fits_annotations member.applied, member.deprecated.fits⟩

/-- A field has room. -/
theorem ShowsField.fits {field : Field} {definition : FieldDefinition}
    (shows : ShowsField view room field definition) : definition.Fits room := by
  obtain ⟨member⟩ := shows
  exact ⟨(fun _ given => nomatch given), member.typed.room, member.fits⟩

/-- A field of an input has room. -/
theorem ShowsInput.fits {field : Field} {definition : InputDefinition}
    (shows : ShowsInput view room field definition) : definition.Fits room := by
  obtain ⟨member⟩ := shows
  exact ⟨member.typed.room, (fun _ given => nomatch given), member.fits⟩

/-- A value of an enum has room and is free. -/
theorem ShowsEnumValue.fits {value : EnumValue} {definition : EnumValueDefinition}
    (shows : ShowsEnumValue view value definition) : definition.Fits := by
  obtain ⟨-, free, -, deprecated⟩ := shows
  exact ⟨free, deprecated.fits⟩

/-- An argument has room. -/
theorem ShowsArgument.fits {argument : Argument} {definition : InputDefinition}
    (shows : ShowsArgument view room argument definition) : definition.Fits room := by
  obtain ⟨-, -, -, typed, defaulted⟩ := shows
  refine ⟨typed.room, fun literal given => ?_, fun _ given => nomatch given⟩
  cases given
  generalize argument.defaultValue = value at defaulted
  cases defaulted with
  | some own => exact own.room

/-- An operation has room. -/
theorem ShowsOperation.fits {operation : Operation} {definition : FieldDefinition}
    (shows : ShowsOperation view room operation definition) : definition.Fits room := by
  obtain ⟨-, -, given, typed, applied⟩ := shows
  exact ⟨forall_of_forall₂_right given fun _ _ => ShowsArgument.fits, typed.room,
    fits_annotations applied⟩

/-- A named type has room. -/
theorem ShowsType.fits {type : NamedType} {definition : Definition}
    (shows : ShowsType view room type definition) : definition.Fits room := by
  obtain ⟨-, -, body⟩ := shows
  generalize type.body = shown at body
  -- The members have room, whatever kind of type they make.
  cases body with
  | object applied each =>
    exact ⟨rfl, fits_annotations applied, forall_of_forall₂_right each fun _ _ => ShowsField.fits⟩
  | input applied each =>
    exact ⟨fits_annotations applied, forall_of_forall₂_right each fun _ _ => ShowsInput.fits⟩
  | interface applied each =>
    exact ⟨rfl, fits_annotations applied, forall_of_forall₂_right each fun _ _ => ShowsField.fits⟩
  | enum each =>
    exact ⟨(fun _ given => nomatch given),
      forall_of_forall₂_right each fun _ _ => ShowsEnumValue.fits⟩
  | union applied each => exact fits_annotations applied

/-- A root type has room. -/
theorem ShowsRoot.fits {operations : List Operation} {root : Root} {definition : Definition}
    (shows : ShowsRoot view room operations root definition) : definition.Fits room := by
  obtain ⟨each⟩ := shows
  exact ⟨rfl, (fun _ given => nomatch given),
    forall_of_forall₂_right each fun _ _ => ShowsOperation.fits⟩

variable {types : List NamedType} {operations : List Operation} {text : Option String}
  {definitions : List Definition}

/-- The definitions of a document have room. -/
theorem ShowsDocument.fits
    (shows : ShowsDocument view room types operations text definitions) :
    ∀ definition ∈ definitions, definition.Fits room := by
  obtain ⟨headed, each, rooted⟩ := shows
  -- A definition is the schema block, a named type or a root type.
  refine List.forall_mem_append.mpr ⟨List.forall_mem_append.mpr ⟨?_, ?_⟩, ?_⟩
  · intro definition member
    cases headed with
    | none => cases member
    | some some_root =>
      rw [List.mem_singleton.mp member]
      exact ⟨(fun _ given => nomatch given), by simpa using some_root⟩
  · exact forall_of_forall₂_right each fun _ _ => ShowsType.fits
  · exact forall_of_forall₂_right rooted fun _ _ => ShowsRoot.fits

/-- The definitions of a document are as many as its blocks. -/
theorem ShowsDocument.length_eq
    (shows : ShowsDocument view room types operations text definitions) :
    definitions.length = (blocks types operations text).length := by
  obtain ⟨headed, each, rooted⟩ := shows
  simp only [blocks, List.length_append, List.length_map, each.length_eq, rooted.length_eq]
  -- The schema block is there with its definition, or neither is.
  cases headed with
  | none rootless => simp [rootless]
  | some some_root => simp [some_root]

/-- The tokens of a document are those of its definitions. -/
theorem ShowsDocument.scans
    (shows : ShowsDocument view room types operations text definitions)
    (some_block : blocks types operations text ≠ []) :
    Scans (view.see (render types operations text).toList)
      (definitions.flatMap Definition.tokens) [] := by
  -- The text of the document is its blocks without the two breaks in front.
  have scans := (Shows.blocks shows).scans
  rw [onBlocks_eq shows some_block, view.other _ (by decide), view.other _ (by decide)] at scans
  exact (scans.of_cons rfl).of_cons rfl

/-- A document is parsed as its definitions, or refused where there may be no room for them. -/
theorem ShowsDocument.parse_eq_or
    (shows : ShowsDocument view room types operations text definitions)
    (some_block : blocks types operations text ≠ []) {sure : Prop}
    (within : sure → room ≤ Parser.nestingLimit) :
    parse (view.see (render types operations text).toList) = .ok definitions ∨
      (¬sure ∧ ∃ fault, parse (view.see (render types operations text).toList) = .error fault) := by
  have scans := shows.scans some_block
  have some_definition : definitions ≠ [] := by
    -- Each block has its definition, and there is a block.
    rw [← List.length_pos_iff, shows.length_eq]
    exact List.length_pos_iff.mpr some_block
  exact Definition.parse_eq_or some_definition shows.fits within scans.lex_eq scans.clean_finish

/-- A document for which there is room is parsed as its definitions. -/
theorem ShowsDocument.parse_eq
    (shows : ShowsDocument view room types operations text definitions)
    (some_block : blocks types operations text ≠ []) (within : room ≤ Parser.nestingLimit) :
    parse (view.see (render types operations text).toList) = .ok definitions :=
  (shows.parse_eq_or some_block fun _ : True => within).resolve_right fun refused =>
    refused.1 trivial

end AppSync.Sdl
