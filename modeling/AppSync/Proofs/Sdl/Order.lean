import AppSync.Proofs.Schema
import AppSync.Proofs.Text.Order
import AppSync.Sdl.Printer
import Mathlib.Data.List.Perm.Basic

/-!
The schema document does not depend on the order of declarations: types, operations, and the fields
or values of a type may come in any order, wherever their names tell them apart.
-/

namespace AppSync.Sdl

open Text (codes)

section Sorting

variable {α : Type} {name : α → String} {items others : List α}

/-- Items that are sorted by name come in order of the codes of their names. -/
theorem sortedBy_pairwise (name : α → String) (items : List α) :
    (sortedBy name items).Pairwise fun first second => codes (name first) ≤ codes (name second) := by
  -- The order of codes is total and transitive, which is all that sorting asks for.
  have transitive (a b c : α) (first : Text.codesInOrder (name a) (name b) = true)
      (second : Text.codesInOrder (name b) (name c) = true) :
      Text.codesInOrder (name a) (name c) = true := by
    rw [Text.codesInOrder_iff] at first second ⊢
    exact first.trans second
  have total (a b : α) :
      (Text.codesInOrder (name a) (name b) || Text.codesInOrder (name b) (name a)) = true := by
    rw [Bool.or_eq_true, Text.codesInOrder_iff, Text.codesInOrder_iff]
    exact le_total _ _
  have sorted := List.pairwise_mergeSort transitive total items
  exact sorted.imp fun ordered => Text.codesInOrder_iff.mp ordered

/-- A list in order of names is the sorted one, if the names tell the items apart. -/
theorem eq_sortedBy (distinct : (items.map name).Nodup) (perm : others.Perm items)
    (ordered : others.Pairwise fun first second => codes (name first) ≤ codes (name second)) :
    others = sortedBy name items := by
  have kept : (sortedBy name items).Perm items := List.mergeSort_perm items _
  refine List.Perm.eq_of_pairwise (fun a b first second before after => ?_) ordered
    (sortedBy_pairwise name items) (perm.trans kept.symm)
  -- Two items, each not behind the other, have the same name and are the same.
  have names : name a = name b := Text.codes_injective (le_antisymm before after)
  exact List.inj_on_of_nodup_map distinct (perm.mem_iff.mp first) (kept.mem_iff.mp second) names

/-- Lists in another order are sorted in the same way. -/
theorem sortedBy_of_shuffled (shuffled : Shuffled name items others) :
    sortedBy name others = sortedBy name items := by
  rcases shuffled with rfl | ⟨distinct, perm⟩
  · rfl
  · have kept : (sortedBy name others).Perm others := List.mergeSort_perm others _
    exact eq_sortedBy distinct (kept.trans perm.symm) (sortedBy_pairwise name others)

/-- A list in another order is as empty as it was. -/
theorem isEmpty_of_shuffled (shuffled : Shuffled name items others) :
    others.isEmpty = items.isEmpty := by
  rcases shuffled with rfl | ⟨-, perm⟩
  · rfl
  · exact perm.symm.isEmpty_eq

/-- Pairs of the same name stay pairs when both lists are sorted. -/
theorem forall₂_sortedBy {β : Type} {relation : α → β → Prop} {name' : β → String}
    {meanings : List β} (distinct : (items.map name).Nodup)
    (each : List.Forall₂ relation items meanings)
    (same : ∀ item meaning, relation item meaning → name' meaning = name item) :
    List.Forall₂ relation (sortedBy name items) (sortedBy name' meanings) := by
  -- The second list can be put in the order of the sorted first one, which sorts it too.
  obtain ⟨sorted, pairs, perm⟩ := List.perm_comp_forall₂ (List.mergeSort_perm items _) each
  have names : sorted.map name' = (sortedBy name items).map name :=
    map_of_forall₂ name name' pairs same
  have ordered : sorted.Pairwise fun first second => codes (name' first) ≤ codes (name' second) := by
    have inOrder : ((sortedBy name items).map name).Pairwise fun first second =>
        codes first ≤ codes second := List.pairwise_map.mpr (sortedBy_pairwise name items)
    rwa [← names, List.pairwise_map] at inOrder
  have distinct' : (meanings.map name').Nodup := by
    rw [map_of_forall₂ name name' each same]
    exact distinct
  rw [← eq_sortedBy distinct' perm ordered]
  exact pairs

end Sorting

section Types

variable {type other : NamedType}

/-- A type in braces is written alike whatever the order of its fields is. -/
theorem fieldedBlock_of_shuffled {fields others : List Field}
    (shuffled : Shuffled Field.name fields others) (keyword : String)
    (named : other.name = type.name) (applied : other.directives = type.directives) :
    fieldedBlock keyword other others = fieldedBlock keyword type fields := by
  rw [fieldedBlock, fieldedBlock, named, applied, isEmpty_of_shuffled shuffled,
    sortedBy_of_shuffled shuffled]

/-- An enum is written alike whatever the order of its values is. -/
theorem enumBlock_of_shuffled {values others : List EnumValue}
    (shuffled : Shuffled EnumValue.name values others) (named : other.name = type.name) :
    enumBlock other others = enumBlock type values := by
  rw [enumBlock, enumBlock, named, isEmpty_of_shuffled shuffled, sortedBy_of_shuffled shuffled]

/-- A type is written alike whatever the order inside of it is. -/
theorem typeBlock_of_reordered (reordered : ReorderedType type other) :
    typeBlock other = typeBlock type := by
  obtain ⟨named, described, body, applied⟩ := reordered
  unfold typeBlock
  rw [described]
  refine congrArg (description type.description "" ++ ·) ?_
  -- The shape decides how the block is written, and is the same on both sides.
  generalize type.body = shape, other.body = shape' at body
  cases body with
  | object shuffled => exact fieldedBlock_of_shuffled shuffled "type" named applied
  | input shuffled => exact fieldedBlock_of_shuffled shuffled "input" named applied
  | interface shuffled => exact fieldedBlock_of_shuffled shuffled "interface" named applied
  | enum shuffled => exact enumBlock_of_shuffled shuffled named
  | union members => simp only [unionBlock, named, applied]

/-- A type shows the same directives whatever the order inside of it is. -/
theorem shownDirectives_of_reordered (reordered : ReorderedType type other) :
    (shownDirectives type).Perm (shownDirectives other) := by
  obtain ⟨-, -, body, applied⟩ := reordered
  -- Fields bring their directives along.
  have fielded {fields others : List Field} (shuffled : Shuffled Field.name fields others) :
      (type.directives ++ fields.flatMap Field.directives).Perm
        (type.directives ++ others.flatMap Field.directives) := by
    rcases shuffled with rfl | ⟨-, perm⟩
    · exact .refl _
    · exact (perm.flatMap_right _).append_left _
  unfold shownDirectives
  rw [applied]
  generalize type.body = shape, other.body = shape' at body
  cases body with
  | object shuffled => exact fielded shuffled
  | input shuffled => exact fielded shuffled
  | interface shuffled => exact fielded shuffled
  | enum shuffled => exact .refl _
  | union members => exact .refl _

end Types

section Operations

variable {operations others : List Operation}

/-- The root types that are present do not depend on the order of the operations. -/
theorem presentRoots_eq_of_perm (perm : operations.Perm others) :
    Schema.presentRoots others = Schema.presentRoots operations := by
  refine List.filter_congr fun root _ => ?_
  exact perm.symm.any_eq

/-- A root type is written alike whatever the order of the operations is. -/
theorem rootBlock_eq_of_perm (distinct : (operations.map Operation.key).Nodup)
    (perm : operations.Perm others) (root : Root) :
    rootBlock others root = rootBlock operations root := by
  -- The operations of one root type have names of their own, by which they are sorted.
  have shuffled : Shuffled Operation.fieldName
      (operations.filter fun operation => operation.root = root)
      (others.filter fun operation => operation.root = root) :=
    .inr ⟨nodup_fieldNames distinct root, perm.filter _⟩
  rw [rootBlock, rootBlock, sortedBy_of_shuffled shuffled]

end Operations

section Reordered

variable {schema : Schema} {types : List NamedType} {operations : List Operation}

/-- The blocks of the types come in the same order and are the same. -/
theorem typeBlocks_of_reordered (reordered : Reordered schema types operations) :
    (sortedBy NamedType.name types).map typeBlock =
      (sortedBy NamedType.name schema.types).map typeBlock := by
  obtain ⟨middle, perm, each⟩ := reordered.types
  have distinct : (middle.map NamedType.name).Nodup :=
    (perm.map NamedType.name).nodup schema.typesDistinct
  -- First the order of the types is undone, and then the order inside of each.
  have shuffled : Shuffled NamedType.name schema.types middle := .inr ⟨schema.typesDistinct, perm⟩
  have pairs := forall₂_sortedBy distinct each fun _ _ own => own.name
  calc (sortedBy NamedType.name types).map typeBlock
      = (sortedBy NamedType.name middle).map typeBlock :=
        map_of_forall₂ typeBlock typeBlock pairs fun _ _ => typeBlock_of_reordered
    _ = (sortedBy NamedType.name schema.types).map typeBlock := by rw [sortedBy_of_shuffled shuffled]

/-- The document is the same character by character. -/
theorem render_of_reordered (reordered : Reordered schema types operations) (text : Option String) :
    render types operations text = render schema.types schema.operations text := by
  have roots := presentRoots_eq_of_perm reordered.operations
  have rootBlocks : rootBlock operations = rootBlock schema.operations :=
    funext fun root => rootBlock_eq_of_perm schema.operationsDistinct reordered.operations root
  unfold render blocks
  rw [roots, rootBlocks, typeBlocks_of_reordered reordered]

/-- The same directives have to be written. -/
theorem any_shownDirectives_of_reordered (reordered : Reordered schema types operations)
    (holds : Directive → Bool) :
    (types.flatMap shownDirectives ++ operations.flatMap Operation.directives).any holds =
      (schema.types.flatMap shownDirectives ++
        schema.operations.flatMap Operation.directives).any holds := by
  obtain ⟨middle, perm, each⟩ := reordered.types
  -- Whether one of them has a property does not depend on any order.
  have inside : types.any (fun type => (shownDirectives type).any holds) =
      middle.any fun type => (shownDirectives type).any holds := by
    have same := map_of_forall₂ (fun type => (shownDirectives type).any holds)
      (fun type => (shownDirectives type).any holds) each
      fun _ _ own => (shownDirectives_of_reordered own).symm.any_eq
    have found := congrArg (List.any · id) same
    rwa [List.any_map, List.any_map] at found
  rw [List.any_append, List.any_append, List.any_flatMap, List.any_flatMap, List.any_flatMap,
    List.any_flatMap, inside, perm.any_eq, reordered.operations.any_eq]

end Reordered

/--
Declarations of a schema in another order, of types, of operations and inside of types, make a
schema again, and its document is the same character by character.
-/
theorem writtenSchema?_reordered {schema : Schema} {types : List NamedType}
    {operations : List Operation} (reordered : Reordered schema types operations)
    (text : Option String) :
    ∃ other, Schema.make types operations schema.description = .ok other ∧
      other.types = types ∧ other.operations = operations ∧
      writtenSchema? other text = writtenSchema? schema text := by
  obtain ⟨other, made, sameTypes, sameOperations, described⟩ := reordered.exists_make
  refine ⟨other, made, sameTypes, sameOperations, ?_⟩
  have writable : isWritable other = isWritable schema := by
    unfold isWritable
    rw [sameTypes, sameOperations, any_shownDirectives_of_reordered reordered]
  have rendered : renderSchema other text = renderSchema schema text := by
    unfold renderSchema
    rw [sameTypes, sameOperations, described, render_of_reordered reordered]
  rw [writtenSchema?, writtenSchema?, writable, rendered]

/-- A field of a plain type. -/
def plainField (name type : String) : Field :=
  ⟨name, type, none, true, false, none, []⟩

/-- A value without a description. -/
def plainValue (name : String) : EnumValue :=
  ⟨name, none, false, none⟩

/-- An operation that a data source of its own serves. -/
def servedOperation (root : Root) (fieldName : String) : Operation :=
  ⟨root, fieldName, "Book", none, [], .unit "Books" (by decide), [], {}⟩

/-- A type of books, with its fields in a given order. -/
def bookType (fields : List Field) : NamedType :=
  ⟨"Book", some "A book.", .object fields, []⟩

/-- An enum of shelves, with its values in a given order. -/
def shelfType (values : List EnumValue) : NamedType :=
  ⟨"Shelf", none, .enum values, []⟩

/-- Books on shelves. -/
def bookSchema : Schema :=
  ⟨[bookType [plainField "title" "String", plainField "shelf" "Shelf"],
      shelfType [plainValue "UPPER", plainValue "LOWER"]],
    [servedOperation .query "book", servedOperation .mutation "addBook"], none,
    by decide, by decide, by decide⟩

/-- The types of the books the other way round, and their fields and values too. -/
def reversedTypes : List NamedType :=
  [shelfType [plainValue "LOWER", plainValue "UPPER"],
    bookType [plainField "shelf" "Shelf", plainField "title" "String"]]

/-- The operations on books the other way round. -/
def reversedOperations : List Operation :=
  [servedOperation .mutation "addBook", servedOperation .query "book"]

/-- Books whose declarations are turned round at every level have the document that they had. -/
theorem writtenSchema?_reversed : Reordered bookSchema reversedTypes reversedOperations ∧
    ∃ other, Schema.make reversedTypes reversedOperations bookSchema.description = .ok other ∧
      other.types = reversedTypes ∧ other.operations = reversedOperations ∧
      writtenSchema? other (some "Books.") = writtenSchema? bookSchema (some "Books.") := by
  have shelf : ReorderedType (shelfType [plainValue "UPPER", plainValue "LOWER"])
      (shelfType [plainValue "LOWER", plainValue "UPPER"]) :=
    ⟨rfl, rfl, .enum (.inr ⟨by decide, .swap _ _ _⟩), rfl⟩
  have book : ReorderedType (bookType [plainField "title" "String", plainField "shelf" "Shelf"])
      (bookType [plainField "shelf" "Shelf", plainField "title" "String"]) :=
    ⟨rfl, rfl, .object (.inr ⟨by decide, .swap _ _ _⟩), rfl⟩
  have reordered : Reordered bookSchema reversedTypes reversedOperations :=
    ⟨⟨_, .swap _ _ _, .cons shelf (.cons book .nil)⟩, .swap _ _ _⟩
  exact ⟨reordered, writtenSchema?_reordered reordered (some "Books.")⟩

end AppSync.Sdl
