import AppSync.Proofs.Document.Reading
import AppSync.Proofs.Result
import AppSync.Proofs.Text.Half
import AppSync.Schema.Basic

/-!
What the readings of records yield. Directives that are read have arguments with names of their own.
The refusals of a record show names only, so that they can be stated where no name in its value has
halves of characters in it.
-/

namespace AppSync

open Reading (Yields IsStatable)
open Text (hasHalves)

variable {known : Prop}

namespace Value

/-- What a value holds at a key, if it is a mapping with the key, has a property. -/
def At (key : String) (holds : Value → Prop) (value : Value) : Prop :=
  ∀ entries found, value.unfolded = .mapping entries → Entries.get? key entries = some found →
    holds found

/-- The items of a value, if it lists any, have a property. -/
def Each (holds : Value → Prop) (value : Value) : Prop :=
  ∀ items, Reading.listed? value = some items → ∀ item ∈ items, holds item

/-- A value that is read as no text with halves of characters. -/
def IsWholeText (value : Value) : Prop :=
  ∀ text, Reading.text value = .ok text → hasHalves text = false

/-- A value is a mapping that spells a text at a key. -/
def Spells (key text : String) (value : Value) : Prop :=
  ∃ entries found, value.unfolded = .mapping entries ∧ Entries.get? key entries = some found ∧
    Reading.text found = .ok text

/-- A value whose keys, if it is a mapping, are whole texts if they are texts. -/
def HasWholeKeys (value : Value) : Prop :=
  ∀ entries, value.unfolded = .mapping entries → ∀ entry ∈ entries, IsWholeText (.scalar entry.1)

/-- A value that names a directive and its arguments by whole texts. -/
structure NamesDirective (value : Value) : Prop where
  name : value.At "name" IsWholeText
  arguments : value.At "arguments" HasWholeKeys

/-- A value that names the directives of a field by whole texts. -/
def NamesField (value : Value) : Prop :=
  value.At "directives" (Each NamesDirective)

/-- A value that names a type, its directives and those of its fields by whole texts. -/
structure NamesType (value : Value) : Prop where
  name : value.At "name" IsWholeText
  fields : value.At "fields" (Each NamesField)
  directives : value.At "directives" (Each NamesDirective)

/-- A value that names an operation and its directives by whole texts. -/
structure NamesOperation (value : Value) : Prop where
  fieldName : value.At "field_name" IsWholeText
  directives : value.At "directives" (Each NamesDirective)

/-- A text that is spelled where only whole texts are read is whole. -/
theorem Spells.whole {key text : String} {value : Value} (spells : value.Spells key text)
    (whole : value.At key IsWholeText) : hasHalves text = false := by
  obtain ⟨entries, found, form, held, read⟩ := spells
  exact whole entries found form held text read

/-- A text that is read at a key is spelled there. -/
theorem Spells.of_required {key : String} {value : Value} {entries : Entries}
    (form : value.unfolded = .mapping entries) :
    Yields known (fun text => value.Spells key text)
      (Reading.required key Reading.text entries) :=
  .required fun found held =>
    ⟨fun _ read => ⟨entries, found, form, held, read⟩, (Yields.text found).stated⟩

end Value

/-! ## Directives -/

namespace Json

/-- Setting a member leaves the names as they are, or puts its name behind them. -/
theorem names_setMember {α : Type} (name : String) (value : α) (members : List (String × α)) :
    (setMember name value members).map Prod.fst =
      if name ∈ members.map Prod.fst then members.map Prod.fst
      else members.map Prod.fst ++ [name] := by
  -- The member is set where its name stands first, or behind all the others.
  induction members with
  | nil => rfl
  | cons member rest ih =>
    unfold setMember
    by_cases same : member.1 = name
    · simp [same]
    · have apart : name ∈ (member :: rest).map Prod.fst ↔ name ∈ rest.map Prod.fst := by
        simp [Ne.symm same]
      simp only [if_neg same, List.map_cons, ih, ← apart]
      split <;> rfl

/-- Members that are collected have names of their own, which are among those that were given. -/
theorem names_collectMembers {α : Type} (members : List (String × α)) :
    ((collectMembers members).map Prod.fst).Nodup ∧
      ∀ member ∈ collectMembers members, member.1 ∈ members.map Prod.fst := by
  -- Member by member: what is collected stays distinct and within the names seen so far.
  have general (collected : List (String × α)) (distinct : (collected.map Prod.fst).Nodup) :
      ((members.foldl (fun found member => setMember member.1 member.2 found)
        collected).map Prod.fst).Nodup ∧
      ∀ name ∈ (members.foldl (fun found member => setMember member.1 member.2 found)
        collected).map Prod.fst, name ∈ collected.map Prod.fst ∨ name ∈ members.map Prod.fst := by
    induction members generalizing collected with
    | nil => exact ⟨distinct, fun name member => .inl member⟩
    | cons first rest ih =>
      have names := names_setMember first.1 first.2 collected
      have apart : ((setMember first.1 first.2 collected).map Prod.fst).Nodup := by
        rw [names]
        split
        · exact distinct
        · rename_i fresh
          refine List.nodup_append.mpr ⟨distinct, List.nodup_cons.mpr ⟨nofun, List.nodup_nil⟩, ?_⟩
          rintro name early other own rfl
          exact fresh (List.mem_singleton.mp own ▸ early)
      obtain ⟨still, among⟩ := ih _ apart
      refine ⟨still, fun name member => ?_⟩
      rcases among name member with early | late
      · rw [names] at early
        split at early
        · exact .inl early
        · rcases List.mem_append.mp early with before | own
          · exact .inl before
          · exact .inr (List.mem_cons.mpr (.inl (List.mem_singleton.mp own)))
      · exact .inr (List.mem_cons_of_mem _ late)
  obtain ⟨distinct, among⟩ := general [] List.nodup_nil
  refine ⟨distinct, fun member inside => ?_⟩
  rcases among member.1 (List.mem_map_of_mem inside) with none_before | given
  · exact absurd none_before List.not_mem_nil
  · exact given

end Json

namespace Directive

/-- The arguments of a directive have names of their own. -/
def Distinct (directive : Directive) : Prop :=
  (directive.arguments.map Prod.fst).Nodup

/-- A literal, and no refusal. -/
theorem value_yields (value : Value) :
    Yields known (fun _ => True) (DirectiveValue.read value) := by
  have plain (step : List String) (cause : Cause) (other : ∀ refusal, cause ≠ .refused refusal) :
      IsStatable (Problem.mk step cause).cause := fun refusal refused =>
    absurd refused (other refusal)
  unfold DirectiveValue.read
  split
  · exact .ok trivial
  · exact .ok trivial
  · exact .ok trivial
  · exact .ok trivial
  · split
    · exact .ok trivial
    · -- Bytes that encode no text fit no kind of literal.
      refine ⟨fun _ _ => trivial, ?_⟩
      rintro - problems ⟨⟩ problem member
      simp only [DirectiveValue.undecodable, List.mem_cons, List.not_mem_nil, or_false] at member
      rcases member with rfl | rfl | rfl | rfl | rfl <;> exact plain _ _ (by rintro refusal ⟨⟩)
  · split
    · exact .ok trivial
    · rename_i problems met
      have texts : Yields known (fun _ => True) (Reading.list Reading.text value) :=
        (Yields.list fun _ _ item _ => .text item).imp fun _ _ => trivial
      refine ⟨fun _ _ => trivial, ?_⟩
      rintro given all ⟨⟩ problem member
      rcases List.mem_append.mp member with kinds | lists
      · simp only [List.mem_cons, List.not_mem_nil, or_false] at kinds
        rcases kinds with rfl | rfl | rfl | rfl <;> exact plain _ _ (by rintro refusal ⟨⟩)
      · obtain ⟨inner, inside, rfl⟩ := List.mem_map.mp lists
        exact texts.stated given problems met inner inside

/-- Arguments whose names are whole if their keys are. -/
theorem arguments_yield {entries : List (Scalar × Value)}
    (whole : known → ∀ entry ∈ entries, Value.IsWholeText (.scalar entry.1)) :
    Yields known (fun arguments => known → ∀ argument ∈ arguments, hasHalves argument.1 = false)
      (readArguments entries) := by
  -- Key and literal of each entry are read in front of the rest.
  induction entries with
  | nil => exact .ok fun _ argument member => nomatch member
  | cons entry rest ih =>
    obtain ⟨key, value⟩ := entry
    have others := ih fun given other member => whole given other (List.mem_cons_of_mem _ member)
    have named : Yields known (fun name => known → hasHalves name = false)
        (Reading.below key.step (Reading.below "[key]" (Reading.text (.scalar key)))) := by
      refine .below (.below ⟨fun name read given => ?_, (Yields.text _).stated⟩ _) _
      exact whole given _ List.mem_cons_self name read
    refine Yields.give (.give (.map (named.imp ?_)) ((value_yields value).below key.step)) others
    intro name own _ _ others later given argument member
    rcases List.mem_cons.mp member with rfl | member
    · exact own given
    · exact later given argument member

/-- A mapping of arguments with names of their own. -/
theorem mapping_yields {value : Value} (whole : known → value.HasWholeKeys) :
    Yields known (fun arguments => (arguments.map Prod.fst).Nodup ∧
      (known → ∀ argument ∈ arguments, hasHalves argument.1 = false)) (readMapping value) := by
  unfold readMapping
  split
  · rename_i entries form
    refine .map ((arguments_yield fun given => whole given entries form).imp ?_)
    -- Of arguments with one name the last is kept, at the place of the first.
    intro arguments named
    obtain ⟨distinct, among⟩ := Json.names_collectMembers arguments
    refine ⟨distinct, fun given argument member => ?_⟩
    obtain ⟨other, inside, same⟩ := List.mem_map.mp (among argument member)
    rw [← same]
    exact named given other inside
  · exact .plain nofun

/-- A name without its sign is as whole as with it. -/
theorem hasHalves_withoutSign {name : String} (whole : hasHalves name = false) :
    hasHalves (withoutSign name) = false := by
  unfold withoutSign
  split
  · rename_i rest signed
    have each := Text.carriesHalf_of_hasHalves whole
    rw [signed] at each
    simpa [hasHalves] using fun c member => each c (List.mem_cons_of_mem _ member)
  · exact whole

/-- A name that may carry its sign. -/
theorem name_yields {value : Value} (whole : known → value.IsWholeText) :
    Yields known (fun _ => True) (readName value) := by
  have named : Yields known (fun name => known → hasHalves name = false)
      ((Reading.text value).map withoutSign) := by
    refine .map ⟨fun name read given => ?_, (Yields.text value).stated⟩
    exact hasHalves_withoutSign (whole given name read)
  refine (named.obeying fun given name read => ?_).imp fun _ _ => trivial
  -- The refusal shows the name between words without halves.
  have front : hasHalves "Directive name '" = false := by decide +kernel
  have behind : hasHalves "' is not a valid identifier" = false := by decide +kernel
  have own := named.found name read given
  exact Text.hasHalves_joined (Text.hasHalves_joined front own) behind

/-- Arguments whose numbers are finite. -/
theorem bounded_yields {value : Value} (whole : known → value.HasWholeKeys) :
    Yields known (fun arguments => (arguments.1.map Prod.fst).Nodup) (readBounded value) := by
  have mapping := mapping_yields whole
  refine (mapping.obeying fun given arguments read => ?_).imp fun _ held => held.1
  -- The refusal shows the name of the first argument that is not finite.
  have front : hasHalves "Directive argument '" = false := by decide +kernel
  have behind : hasHalves "' must be a finite number" = false := by decide +kernel
  have own : hasHalves (((arguments.find? fun argument => !argument.2.isBounded).map
      (·.1)).getD "") = false := by
    cases first : arguments.find? fun argument => !argument.2.isBounded with
    | none =>
      have none_shown : hasHalves "" = false := by decide +kernel
      exact none_shown
    | some argument =>
      exact (mapping.found arguments read).2 given argument (List.mem_of_find?_eq_some first)
  exact Text.hasHalves_joined (Text.hasHalves_joined front own) behind

/-- A directive that is read has arguments with names of their own. -/
theorem read_yields {value : Value} (whole : known → value.NamesDirective) :
    Yields known Distinct (read value) := by
  refine (Yields.record _ _).bind fun entries _ form => ?_
  have named : Yields known (fun _ => True) (Reading.required "name" readName entries) :=
    .required fun name held => name_yields fun given => (whole given).name entries name form held
  have bounded : Yields known (fun arguments => (arguments.1.map Prod.fst).Nodup)
      (Reading.optional "arguments" readBounded ⟨[], by simp⟩ entries) := by
    refine .optional List.nodup_nil fun found held => ?_
    exact bounded_yields fun given => (whole given).arguments entries found form held
  exact .give (.map (named.imp fun _ _ _ distinct => distinct)) bounded

/-- Directives that are listed at a key. -/
theorem list_yields {value : Value} {entries : Entries} (form : value.unfolded = .mapping entries)
    (whole : known → value.At "directives" (Value.Each Value.NamesDirective)) :
    Yields known (fun directives => ∀ directive ∈ directives, Distinct directive)
      (Reading.optional "directives" (Reading.list read) [] entries) := by
  refine .optional (fun _ member => nomatch member) fun found held => ?_
  refine .list fun items listed item member => read_yields fun given => ?_
  exact whole given entries found form held items listed item member

end Directive

/-! ## Types -/

/-- The directives of a field that is read have arguments with names of their own. -/
theorem Field.read_yields {value : Value} (whole : known → value.NamesField) :
    Yields known (fun field => ∀ directive ∈ field.directives, directive.Distinct)
      (Field.read value) := by
  refine (Yields.record _ _).bind fun entries _ form => ?_
  refine .give ?_ (Directive.list_yields form whole)
  refine .giveAny ?_ (.optionalText _ _)
  refine .giveAny ?_ (.optionalBoolean _ _ _)
  refine .giveAny ?_ (.optionalBoolean _ _ _)
  refine .giveAny ?_ (.optionalText _ _)
  refine .giveAny ?_ (.requiredText _ _)
  exact .map ((Yields.requiredText _ _).imp fun _ _ _ _ _ _ _ _ distinct => distinct)

/-- A value of an enum. -/
theorem EnumValue.read_yields (value : Value) :
    Yields known (fun _ => True) (EnumValue.read value) := by
  refine (Yields.record _ _).bind fun entries _ _ => ?_
  refine .giveAny ?_ (.optionalText _ _)
  refine .giveAny ?_ (.optionalBoolean _ _ _)
  refine .giveAny ?_ (.optionalText _ _)
  exact .map ((Yields.requiredText _ _).imp fun _ _ _ _ _ => trivial)

namespace TypeDeclaration

/-- A declaration all of whose directives have arguments with names of their own. -/
structure Distinct (declared : TypeDeclaration) : Prop where
  fields : ∀ field ∈ declared.fields, ∀ directive ∈ field.directives, directive.Distinct
  directives : ∀ directive ∈ declared.directives, directive.Distinct

/-- A declaration that is read has the name that the value spells. -/
theorem read_yields {value : Value} (whole : known → value.NamesType) :
    Yields known (fun declared => declared.Distinct ∧ value.Spells "name" declared.name)
      (read value) := by
  refine (Yields.record _ _).bind fun entries _ form => ?_
  have named : Yields known (fun name => value.Spells "name" name)
      (Reading.required "name" Reading.text entries) :=
    Value.Spells.of_required form
  have fields : Yields known
      (fun fields => ∀ field ∈ fields, ∀ directive ∈ field.directives, directive.Distinct)
      (Reading.optional "fields" (Reading.list Field.read) [] entries) := by
    refine .optional (fun _ member => nomatch member) fun found held => ?_
    refine .list fun items listed item member => Field.read_yields fun given => ?_
    exact (whole given).fields entries found form held items listed item member
  have values : Yields known (fun _ => True)
      (Reading.optional "enum_values" (Reading.list EnumValue.read) [] entries) :=
    .optional trivial fun _ _ =>
      (Yields.list fun _ _ item _ => EnumValue.read_yields item).imp fun _ _ => trivial
  -- The rest is read key by key, from the last key back to the first.
  refine .give ?_ (Directive.list_yields form fun given => (whole given).directives)
  refine .giveAny ?_ (.optionalTexts _ _)
  refine .giveAny ?_ values
  refine .give ?_ fields
  refine .giveAny ?_ (.optionalText _ _)
  refine .giveAny ?_ (.optional trivial fun kind _ => .choice _ _ kind)
  exact .map (named.imp fun _ own _ _ _ fields _ _ _ directives => ⟨⟨fields, directives⟩, own⟩)

/-- The kinds of members that a declaration cannot have are shown in words. -/
theorem hasHalves_foreign (declared : TypeDeclaration) :
    hasHalves (String.intercalate ", " declared.foreign) = false := by
  unfold foreign
  -- There are as many lists of kinds as ways to choose from three.
  cases declared.kind <;> cases declared.fields.isEmpty <;> cases declared.values.isEmpty <;>
    cases declared.members.isEmpty <;> decide +kernel

end TypeDeclaration

/-- The directives of a type that is read, and of its fields, have arguments of different names. -/
structure NamedType.Distinct (type : NamedType) : Prop where
  fields : ∀ field ∈ type.body.fields, ∀ directive ∈ field.directives, directive.Distinct
  directives : ∀ directive ∈ type.directives, directive.Distinct

/-- A type that is read has the name that the value spells. -/
theorem NamedType.read_yields {value : Value} (whole : known → value.NamesType) :
    Yields known (fun type => type.Distinct ∧ value.Spells "name" type.name)
      (NamedType.read value) := by
  refine (TypeDeclaration.read_yields whole).bind fun declared _ held => ?_
  obtain ⟨distinct, own⟩ := held
  unfold TypeDeclaration.toType
  split
  · refine .ok ⟨⟨?_, distinct.directives⟩, own⟩
    -- The body has the declared fields, or none.
    unfold TypeDeclaration.body
    cases declared.kind with
    | object | input | interface => exact distinct.fields
    | enum | union => exact fun _ member => nomatch member
  · refine .fail fun given refusal refused => ?_
    cases refused
    have kind : hasHalves declared.kind.word = false := by
      cases declared.kind <;> decide +kernel
    have middle : hasHalves " type '" = false := by decide +kernel
    have behind : hasHalves "' cannot declare " = false := by decide +kernel
    have named := Text.hasHalves_joined (Text.hasHalves_joined kind middle)
      (own.whole (whole given).name)
    exact Text.hasHalves_joined (Text.hasHalves_joined named behind) declared.hasHalves_foreign

/-! ## Operations -/

/-- An argument, and no refusal. -/
theorem Argument.read_yields (value : Value) :
    Yields known (fun _ => True) (Argument.read value) := by
  refine (Yields.record _ _).bind fun entries _ _ => ?_
  refine .giveAny ?_ (.optionalText _ _)
  refine .giveAny ?_ (.optionalBoolean _ _ _)
  refine .giveAny ?_ (.optionalText _ _)
  refine .giveAny ?_ (.requiredText _ _)
  exact .map ((Yields.requiredText _ _).imp fun _ _ _ _ _ _ => trivial)

/-- Deployment settings, and no refusal. -/
theorem Deployment.read_yields (value : Value) :
    Yields known (fun _ => True) (Deployment.read value) := by
  refine (Yields.record _ _).bind fun entries _ _ => ?_
  have number (key : String) (least greatest : Int) : Yields known (fun _ => True)
      (Reading.optional key (Reading.nullable (Reading.integerBetween least greatest)) none
        entries) :=
    .optional trivial fun size _ => .nullable (.integerBetween _ _ size)
  -- Key by key, from the last one back; no setting refuses a text by showing it.
  refine .giveAny ?_ (.optionalText _ _)
  refine .giveAny ?_ (.optionalTexts _ _)
  refine .giveAny ?_ (number _ _ _)
  refine .giveAny ?_ (number _ _ _)
  refine .giveAny ?_ (.optionalText _ _)
  refine .giveAny ?_ (.optionalText _ _)
  refine .giveAny ?_ (.optionalText _ _)
  refine .giveAny ?_ (.optional trivial fun runtime _ => .text runtime)
  refine .giveAny ?_ (.optionalText _ _)
  exact .map ((Yields.optionalText _ _).imp fun _ _ _ _ _ _ _ _ _ _ _ => trivial)

/-- A declaration that is read has the field and the return type that the value spells. -/
theorem OperationDeclaration.read_yields {value : Value} (whole : known → value.NamesOperation) :
    Yields known (fun declared => (∀ directive ∈ declared.directives, directive.Distinct) ∧
      value.Spells "field_name" declared.fieldName ∧
      value.Spells "return_type" declared.returnType) (OperationDeclaration.read value) := by
  refine (Yields.record _ _).bind fun entries _ form => ?_
  have named : Yields known (fun name => value.Spells "field_name" name)
      (Reading.required "field_name" Reading.text entries) :=
    Value.Spells.of_required form
  have returned : Yields known (fun type => value.Spells "return_type" type)
      (Reading.required "return_type" Reading.text entries) :=
    Value.Spells.of_required form
  have arguments : Yields known (fun _ => True)
      (Reading.optional "arguments" (Reading.list Argument.read) [] entries) :=
    .optional trivial fun _ _ =>
      (Yields.list fun _ _ item _ => Argument.read_yields item).imp fun _ _ => trivial
  -- The rest is read key by key, from the last key back to the first.
  refine .giveAny ?_ (.optional trivial fun deployment _ => Deployment.read_yields deployment)
  refine .give ?_ (Directive.list_yields form fun given => (whole given).directives)
  refine .giveAny ?_ (.optionalTexts _ _)
  refine .giveAny ?_ (.optionalText _ _)
  refine .giveAny ?_ (.optional trivial fun kind _ => .choice _ _ kind)
  refine .giveAny ?_ arguments
  refine .giveAny ?_ (.optionalText _ _)
  refine .give ?_ returned
  refine .give ?_ named
  have root : Yields known (fun _ => True) (Reading.required "root_type" (Reading.choice
      (Root.all.map fun root => (root.name, root)) Text.capitalized) entries) :=
    .required fun root _ => .choice _ _ root
  exact .map (root.imp fun _ _ _ own _ type _ _ _ _ _ _ distinct _ => ⟨distinct, own, type⟩)

/-- What a resolver lacks or has too much of is said with the name of its field. -/
theorem Resolver.hasHalves_refusal {field : String} (whole : hasHalves field = false)
    {kind : Resolver.Kind} {source : Option String} {functions : List String} {refusal : Refusal}
    (refused : Resolver.make field kind source functions = .error refusal) :
    hasHalves refusal.message = false := by
  have unit : hasHalves "Unit resolver '" = false := by decide +kernel
  have pipeline : hasHalves "Pipeline resolver '" = false := by decide +kernel
  have without : hasHalves "' requires a data_source" = false := by decide +kernel
  have with_functions : hasHalves "' cannot declare pipeline functions" = false := by
    decide +kernel
  have without_functions : hasHalves "' requires at least one function" = false := by
    decide +kernel
  have with_source : hasHalves "' cannot declare a data_source" = false := by decide +kernel
  -- There are two refusals for each kind.
  unfold Resolver.make at refused
  cases kind with
  | unit =>
    dsimp only at refused
    split at refused
    · split at refused
      · cases refused
      · cases refused
        exact Text.hasHalves_joined (Text.hasHalves_joined unit whole) with_functions
    · cases refused
      exact Text.hasHalves_joined (Text.hasHalves_joined unit whole) without
  | pipeline =>
    dsimp only at refused
    split at refused
    · split at refused
      · cases refused
      · cases refused
        exact Text.hasHalves_joined (Text.hasHalves_joined pipeline whole) with_source
    · cases refused
      exact Text.hasHalves_joined (Text.hasHalves_joined pipeline whole) without_functions

/-- An operation that is read has directives whose arguments have names of their own. -/
theorem Operation.read_yields {value : Value} (whole : known → value.NamesOperation) :
    Yields known (fun operation => ∀ directive ∈ operation.directives, directive.Distinct)
      (Operation.read value) := by
  refine (OperationDeclaration.read_yields whole).bind fun declared _ held => ?_
  obtain ⟨distinct, own, -⟩ := held
  -- Only its resolver can still be refused, with the name of the field in the text.
  unfold OperationDeclaration.toOperation
  split
  · rename_i refusal refused
    refine .fail fun given other same => ?_
    cases same
    exact Resolver.hasHalves_refusal (own.whole (whole given).fieldName) refused
  · exact .ok distinct

/-- An operation that is read has the return type that the value spells. -/
theorem Operation.spells_returnType {value : Value} {operation : Operation}
    (read : Operation.read value = .ok operation) :
    value.Spells "return_type" operation.returnType := by
  obtain ⟨declared, found, made⟩ := Except.ok_of_bind read
  have yields : Yields False _ (OperationDeclaration.read value) :=
    OperationDeclaration.read_yields False.elim
  obtain ⟨-, -, spelled⟩ := yields.found declared found
  -- The resolver is all that is added to a declaration.
  unfold OperationDeclaration.toOperation at made
  split at made
  · cases made
  · cases made
    exact spelled

end AppSync
