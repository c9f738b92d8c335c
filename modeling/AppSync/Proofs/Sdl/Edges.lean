import Mathlib.Data.List.Basic
import AppSync.Proofs.Sdl.Document

/-! The edges of a document: it neither begins nor ends with a blank, so nothing is trimmed. -/

namespace AppSync.Sdl

/-- Whether a text begins with a character that is no blank. -/
def Opens (text : List Char) : Prop :=
  ∃ c rest, text = c :: rest ∧ Text.isBlank c = false

/-- Whether a text ends with a character that is no blank. -/
def Closes (text : List Char) : Prop :=
  ∃ front c, text = front ++ [c] ∧ Text.isBlank c = false

/-- A text with no blank at either end is not trimmed. -/
theorem trimBy_eq_self {text : List Char} (opens : Opens text) (closes : Closes text) :
    Text.trimBy Text.isBlank text = text := by
  obtain ⟨c, rest, rfl, first⟩ := opens
  obtain ⟨front, d, ends, last⟩ := closes
  -- Nothing is dropped at the beginning, and nothing of the reversed text.
  have kept : (c :: rest).dropWhile Text.isBlank = c :: rest :=
    List.dropWhile_cons_of_neg (by simp [first])
  unfold Text.trimBy Text.trimEndBy
  rw [kept, ends, List.reverse_append, List.reverse_singleton, List.singleton_append,
    List.dropWhile_cons_of_neg (by simp [last]), List.reverse_cons, List.reverse_reverse]

/-- What stands in front does not change the end. -/
theorem Closes.append {text : List Char} (closes : Closes text) (before : List Char) :
    Closes (before ++ text) := by
  obtain ⟨front, c, rfl, last⟩ := closes
  exact ⟨before ++ front, c, by rw [List.append_assoc], last⟩

/-- What stands behind does not change the beginning. -/
theorem Opens.append {text : List Char} (opens : Opens text) (behind : List Char) :
    Opens (text ++ behind) := by
  obtain ⟨c, rest, rfl, first⟩ := opens
  exact ⟨c, rest ++ behind, rfl, first⟩

/-- Parts, each without a blank at its end, have none at the end together. -/
theorem closes_flatMap {α : Type} {written : α → List Char} {items : List α}
    (some_item : items ≠ []) (closes : ∀ item ∈ items, Closes (written item)) :
    Closes (items.flatMap written) := by
  -- The end of the last part is that of all of them.
  induction items with
  | nil => exact (some_item rfl).elim
  | cons first others ih =>
    rw [List.flatMap_cons]
    cases others with
    | nil =>
      rw [List.flatMap_nil, List.append_nil]
      exact closes first List.mem_cons_self
    | cons second more =>
      exact (ih (List.cons_ne_nil second more)
        fun item member => closes item (List.mem_cons_of_mem first member)).append _

/-- A name has no blank at either end. -/
theorem edges_name {name : String} (named : isName name = true) :
    Opens name.toList ∧ Closes name.toList := by
  obtain ⟨c, rest, letters, -, parts⟩ := exists_of_isName named
  have filled := List.cons_ne_nil c rest
  rw [letters]
  -- The first character of a name and its last one are both parts of it.
  refine ⟨⟨c, rest, rfl, isBlank_of_isNamePart (parts c List.mem_cons_self)⟩, ?_⟩
  exact ⟨(c :: rest).dropLast, (c :: rest).getLast filled,
    (List.dropLast_concat_getLast filled).symm,
    isBlank_of_isNamePart (parts _ (List.getLast_mem filled))⟩

/-- A directive has no blank at its end. -/
theorem closes_directive {applied : Directive} (named : isName applied.name = true) :
    Closes (directive applied).toList := by
  unfold directive
  -- A directive ends with its name or with a parenthesis.
  split
  · rw [String.toList_append]
    exact (edges_name named).2.append _
  · rw [String.toList_append]
    exact Closes.append ⟨[], ')', rfl, by decide⟩ _

/-- A header has no blank at its end, whether or not it ends with directives. -/
theorem closes_header {view : View} {front label : String} (named : isName label = true)
    {applied : List Directive} {annotations : List Annotation}
    (shows : List.Forall₂ (ShowsDirective view) applied annotations) :
    Closes (front ++ label ++ directives applied).toList := by
  unfold directives
  rw [String.toList_append, String.toList_append, String.toList_join, List.flatMap_map]
  -- The name ends the header, or the last directive does.
  cases applied with
  | nil =>
    rw [List.flatMap_nil, List.append_nil]
    exact (edges_name named).2.append _
  | cons first others =>
    refine (closes_flatMap (List.cons_ne_nil first others) fun one member => ?_).append _
    exact closes_directive (forall_of_forall₂ shows (fun _ _ own => own.named) one member)

/-- Lines with no blank at the beginning of the first and at the end of the last. -/
structure Edged (lines : List String) : Prop where
  opens : ∃ first others, lines = first :: others ∧ Opens first.toList
  closes : Closes (onLines lines)

/-- The last line decides the end. -/
theorem closes_onLines {last : String} (closes : Closes last.toList) (lines : List String) :
    Closes (onLines (lines ++ [last])) := by
  have own : onLines [last] = ['\n'] ++ last.toList := by simp [onLines]
  rw [onLines_append, own]
  exact (closes.append _).append _

namespace Edged

variable {lines : List String}

/-- A description does not change that lines have no blanks at their edges. -/
theorem described (edged : Edged lines) (text : Option String) :
    Edged (description text "" ++ lines) := by
  obtain ⟨⟨first, others, same, opens⟩, closes⟩ := edged
  -- Quotes come first where there is a description, and the end is as it was.
  refine ⟨?_, ?_⟩
  · unfold description
    cases text.filter (· ≠ "") with
    | none => exact ⟨first, others, same, opens⟩
    | some value =>
      exact ⟨"" ++ blockQuote, _, rfl, '"', ['"', '"'], by simp [blockQuote], by decide⟩
  · rw [onLines_append]
    exact closes.append _

/-- A single line has the edges of its text. -/
theorem line {text : String} (opens : Opens text.toList) (closes : Closes text.toList) :
    Edged [text] :=
  ⟨⟨text, [], rfl, opens⟩, closes_onLines closes []⟩

/-- Members in braces end with a brace. -/
theorem braced {header : String} (opens : Opens header.toList) (inside : List String) :
    Edged ((header ++ " \x7b") :: inside ++ ["\x7d"]) := by
  refine ⟨⟨header ++ " \x7b", inside ++ ["\x7d"], rfl, ?_⟩, ?_⟩
  · rw [String.toList_append]
    exact opens.append _
  · exact closes_onLines ⟨[], '\x7d', rfl, by decide⟩ _

/-- A header that may have members in braces behind it has no blanks at the edges. -/
theorem header {header : String} (opens : Opens header.toList) (closes : Closes header.toList)
    (isBare : Bool) (inside : List String) :
    Edged (if isBare then [header] else (header ++ " \x7b") :: inside ++ ["\x7d"]) := by
  cases isBare with
  | true => exact line opens closes
  | false => exact braced opens inside

end Edged

/-- A header begins with its keyword. -/
theorem opens_header {front : String} (opens : Opens front.toList) (behind : String) :
    Opens (front ++ behind).toList := by
  rw [String.toList_append]
  exact opens.append _

/-- A schema block has no blanks at its edges. -/
theorem edged_schemaBlock (roots : List Root) (text : Option String) :
    Edged (schemaBlock roots text) := by
  have block := (@Edged.braced "schema" ⟨'s', "chema".toList, rfl, by decide⟩
    (roots.map fun root => memberIndent ++ root.keyword ++ ": " ++ root.name)).described text
  -- The block is its description and members in braces.
  have parted : schemaBlock roots text = description text "" ++
      (("schema" ++ " \x7b") :: (roots.map fun root =>
        memberIndent ++ root.keyword ++ ": " ++ root.name) ++ ["\x7d"]) := by
    rw [schemaBlock, List.append_assoc]
    rfl
  rw [parted]
  exact block

/-- A type made of fields has no blanks at its edges. -/
theorem edged_fieldedBlock {view : View} {keyword : String} (known : isName keyword = true)
    {type : NamedType} (named : isName type.name = true) {annotations : List Annotation}
    (shows : List.Forall₂ (ShowsDirective view) type.directives annotations)
    (fields : List Field) : Edged (fieldedBlock keyword type fields) := by
  have opens := opens_header (edges_name known).1 (" " ++ (type.name ++ directives type.directives))
  have parted : keyword ++ (" " ++ (type.name ++ directives type.directives)) =
      keyword ++ " " ++ type.name ++ directives type.directives := by
    simp only [String.append_assoc]
  rw [parted] at opens
  exact .header opens (closes_header named shows) _ _

/-- An enum has no blanks at its edges. -/
theorem edged_enumBlock {type : NamedType} (named : isName type.name = true)
    (values : List EnumValue) : Edged (enumBlock type values) := by
  have opens : Opens ("enum " ++ type.name).toList :=
    opens_header ⟨'e', "num ".toList, rfl, by decide⟩ type.name
  have closes : Closes ("enum " ++ type.name).toList := by
    rw [String.toList_append]
    exact (edges_name named).2.append _
  exact .header opens closes _ _

/-- A union has no blanks at its edges. -/
theorem edged_unionBlock {view : View} {type : NamedType} (named : isName type.name = true)
    {annotations : List Annotation}
    (shows : List.Forall₂ (ShowsDirective view) type.directives annotations) {members : List String}
    (each : ∀ member ∈ members, isName member = true) : Edged (unionBlock type members) := by
  have opens : Opens ("union " ++ type.name ++ directives type.directives).toList :=
    opens_header (opens_header ⟨'u', "nion ".toList, rfl, by decide⟩ type.name) _
  have closes : Closes ("union " ++ type.name ++ directives type.directives).toList :=
    closes_header named shows
  unfold unionBlock
  generalize "union " ++ type.name ++ directives type.directives = header at opens closes
  cases members with
  | nil => exact .line opens closes
  | cons first others =>
    -- The last member ends the line.
    have last : Closes (String.intercalate " | " (first :: others)).toList := by
      rw [toList_intercalate_cons]
      cases others with
      | nil =>
        rw [List.flatMap_nil, List.append_nil]
        exact (edges_name (each first List.mem_cons_self)).2
      | cons second more =>
        refine (closes_flatMap (List.cons_ne_nil second more) fun member found => ?_).append _
        exact (edges_name (each member (List.mem_cons_of_mem first found))).2.append _
    simp only [List.isEmpty_cons, Bool.false_eq_true, if_false]
    refine .line (opens_header (opens_header opens _) _) ?_
    rw [String.toList_append]
    exact last.append _

/-- A named type has no blanks at its edges. -/
theorem edged_typeBlock {view : View} {room : Nat} {type : NamedType} {definition : Definition}
    (shows : ShowsType view room type definition) : Edged (typeBlock type) := by
  obtain ⟨named, -, body⟩ := shows
  unfold typeBlock
  refine .described ?_ type.description
  generalize type.body = shown at body
  -- Each kind of type is written as one of the blocks above.
  cases body with
  | enum => exact edged_enumBlock named _
  | union applied each => exact edged_unionBlock named applied each
  | object applied | input applied | interface applied =>
    exact edged_fieldedBlock rfl named applied _

/-- A root type has no blanks at its edges. -/
theorem edged_rootBlock (operations : List Operation) (root : Root) :
    Edged (rootBlock operations root) :=
  .braced (opens_header ⟨'t', "ype ".toList, rfl, by decide⟩ root.name) _

/-- No block of a document has blanks at its edges. -/
theorem edged_blocks {view : View} {room : Nat} {types : List NamedType}
    {operations : List Operation}
    {text : Option String} {definitions : List Definition}
    (shows : ShowsDocument view room types operations text definitions) :
    ∀ block ∈ blocks types operations text, Edged block := by
  obtain ⟨-, each, -⟩ := shows
  intro block member
  -- The blocks are the heading, if there is one, the types and the roots.
  unfold blocks at member
  rcases List.mem_append.mp member with member | member
  · rcases List.mem_append.mp member with member | member
    · split at member
      · cases member
      · rw [List.mem_singleton.mp member]
        exact edged_schemaBlock _ text
    · obtain ⟨type, own, rfl⟩ := List.mem_map.mp member
      exact forall_of_forall₂ each (fun _ _ => edged_typeBlock) type own
  · obtain ⟨root, own, rfl⟩ := List.mem_map.mp member
    exact edged_rootBlock operations root

/-- Items behind a separator are the items with the separator between them, behind one. -/
theorem append_toList_intercalate {separator : String} {items : List String}
    (some_item : items ≠ []) :
    separator.toList ++ (String.intercalate separator items).toList =
      items.flatMap fun item => separator.toList ++ item.toList := by
  cases items with
  | nil => exact (some_item rfl).elim
  | cons first others =>
    rw [toList_intercalate_cons, List.flatMap_cons, List.append_assoc]

/-- A blank in front does not make the end of a text. -/
theorem Closes.of_cons {c : Char} {text : List Char} (blank : Text.isBlank c = true)
    (closes : Closes (c :: text)) : Closes text := by
  obtain ⟨front, d, ends, last⟩ := closes
  -- The end is not the blank in front.
  cases front with
  | nil =>
    cases ends
    rw [blank] at last
    cases last
  | cons e front =>
    cases ends
    exact ⟨front, d, rfl, last⟩

/-- Lines are the text of a block behind a line break. -/
theorem onLines_eq {lines : List String} (some_line : lines ≠ []) :
    onLines lines = '\n' :: (String.intercalate "\n" lines).toList :=
  (@append_toList_intercalate "\n" lines some_line).symm

/-- Blocks are joined by empty lines, of which there is one in front of the first too. -/
theorem onBlocks_eq_joined {blocks : List (List String)} (some_block : blocks ≠ [])
    (edged : ∀ block ∈ blocks, Edged block) :
    onBlocks blocks = '\n' :: '\n' ::
      (String.intercalate "\n\n" (blocks.map (String.intercalate "\n"))).toList := by
  have joined := @append_toList_intercalate "\n\n" (blocks.map (String.intercalate "\n"))
    (by simp [some_block])
  rw [List.flatMap_map] at joined
  refine (List.flatMap_congr fun block member => ?_).trans joined.symm
  obtain ⟨first, others, rfl, -⟩ := (edged block member).opens
  rw [onLines_eq (List.cons_ne_nil first others)]
  rfl

/-- Joined blocks have no blanks at their edges. -/
theorem edges_joined {blocks : List (List String)} (some_block : blocks ≠ [])
    (edged : ∀ block ∈ blocks, Edged block) :
    Opens (String.intercalate "\n\n" (blocks.map (String.intercalate "\n"))).toList ∧
      Closes (String.intercalate "\n\n" (blocks.map (String.intercalate "\n"))).toList := by
  -- The first line opens the document, and the last one closes it.
  constructor
  · obtain ⟨block, more, rfl⟩ := List.exists_cons_of_ne_nil some_block
    obtain ⟨first, others, rfl, opens⟩ := (edged block List.mem_cons_self).opens
    rw [List.map_cons, toList_intercalate_cons, toList_intercalate_cons]
    exact (opens.append _).append _
  · have closes : Closes (onBlocks blocks) :=
      closes_flatMap some_block fun block member => (edged block member).closes.append ['\n']
    rw [onBlocks_eq_joined some_block edged] at closes
    exact (closes.of_cons (by decide)).of_cons (by decide)

section Document

variable {view : View} {room : Nat} {types : List NamedType} {operations : List Operation}
  {text : Option String} {definitions : List Definition}

/-- Nothing of the joined blocks of a document is trimmed. -/
theorem toList_render (shows : ShowsDocument view room types operations text definitions)
    (some_block : blocks types operations text ≠ []) :
    (render types operations text).toList = (String.intercalate "\n\n"
      ((blocks types operations text).map (String.intercalate "\n"))).toList := by
  obtain ⟨opens, closes⟩ := edges_joined some_block (edged_blocks shows)
  rw [render, Text.trim, trimBy_eq_self opens closes, String.ofList_toList]

/-- A document is its blocks without the empty line in front. -/
theorem onBlocks_eq (shows : ShowsDocument view room types operations text definitions)
    (some_block : blocks types operations text ≠ []) :
    onBlocks (blocks types operations text) =
      '\n' :: '\n' :: (render types operations text).toList := by
  rw [toList_render shows some_block, onBlocks_eq_joined some_block (edged_blocks shows)]

/-- A document with a block is not blank. -/
theorem isBlankText_render (shows : ShowsDocument view room types operations text definitions)
    (some_block : blocks types operations text ≠ []) :
    Text.isBlankText (render types operations text) = false := by
  obtain ⟨c, rest, begins, filled⟩ := (edges_joined some_block (edged_blocks shows)).1
  rw [Text.isBlankText, toList_render shows some_block, begins, List.all_cons, filled,
    Bool.false_and]

end Document

end AppSync.Sdl
