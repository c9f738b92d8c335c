import AppSync.Proofs.Load.Report
import AppSync.Proofs.Rereading

/-!
Loading ends with a report unless one of three things is wrong with the document as a whole. What is
wrong with a single entry ends in a diagnostic, as far as the entry can be named in words.
-/

namespace AppSync

variable {known : Prop} {α β : Type}

namespace Extraction

/--
What an extraction comes to: the value that it ends with has a property, and as far as something is
known the extraction meets no accident.
-/
structure Yields (known : Prop) (holds : α → Prop) (extraction : Extraction α) : Prop where
  found : ∀ trail value, (extraction.run trail).1 = .ok value → holds value
  calm : known → ∀ trail accident, (extraction.run trail).1 ≠ .error (.accident accident)

namespace Yields

variable {holds : α → Prop} {made : β → Prop} {extraction : Extraction α}

/-- A value that is there already is yielded. -/
theorem ok {value : α} (held : holds value) : Yields known holds (pure value) := by
  refine ⟨?_, ?_⟩
  · rintro trail same ⟨⟩
    exact held
  · rintro - trail accident ⟨⟩

/-- A fault is no accident. -/
theorem refuse (fault : ExtractionFault) : Yields known holds (Extraction.refuse fault) := by
  refine ⟨?_, ?_⟩
  · rintro trail value ⟨⟩
  · rintro - trail accident ⟨⟩

/-- A weaker property is yielded as well. -/
theorem imp {weaker : α → Prop} (yields : Yields known holds extraction)
    (weak : ∀ value, holds value → weaker value) : Yields known weaker extraction :=
  ⟨fun trail value found => weak value (yields.found trail value found), yields.calm⟩

/-- One extraction after another. -/
theorem bind {next : α → Extraction β} (first : Yields known holds extraction)
    (second : ∀ value, holds value → Yields known made (next value)) :
    Yields known made (extraction >>= next) := by
  refine ⟨fun trail value => ?_, fun given trail accident => ?_⟩
  · rw [Trailing.run_bind]
    cases ended : (extraction.run trail).1 with
    | error error => rintro ⟨⟩
    | ok middle => exact (second middle (first.found trail middle ended)).found _ value
  · rw [Trailing.run_bind]
    cases ended : (extraction.run trail).1 with
    | error error =>
      rintro ⟨⟩
      exact first.calm given trail accident ended
    | ok middle => exact (second middle (first.found trail middle ended)).calm given _ accident

/-- What is read is yielded; problems that can be stated make a fault. -/
theorem ofReading {fault : List Problem → ExtractionFault} {reading : Reading α}
    (yields : Reading.Yields known holds reading) :
    Yields known holds (Extraction.ofReading fault reading) := by
  cases reading with
  | ok value => exact ok (yields.found value rfl)
  | error problems =>
    refine ⟨?_, fun given trail accident => ?_⟩
    · rintro trail value ⟨⟩
    · -- With all problems put into words the end is the fault.
      have stated := Reading.unstatable?_eq_none (yields.stated given problems rfl)
      change Except.error (endOf fault problems) ≠ _
      rw [endOf, stated]
      rintro ⟨⟩

/-- What a lookup answers is a value or a fault. -/
theorem lookup (place : String) (look : TypeCache → Except LookupFault α × TypeCache) :
    Yields known (fun _ => True) (do ofLookup place (look (← get).cache)) := by
  refine ⟨fun _ _ _ => trivial, fun _ trail accident => ?_⟩
  rw [run_lookup]
  cases (look trail.cache).1 with
  | error error => rintro ⟨⟩
  | ok value => rintro ⟨⟩

end Yields

/-- A source type, and no refusal. -/
theorem parseSource_yields (place : String) (value : Value) :
    Yields known (fun _ => True) (parseSource place value) := by
  refine .ofReading ?_
  unfold Source.ofValue
  split
  · exact .ok trivial
  · exact (Source.readWithin_yields [] Source.depthLimit _).imp fun _ _ => trivial

/-- The items of a list are those that its value has. -/
theorem itemsOf_yields {holds : Value → Prop} {value : Value} (each : known → value.Each holds) :
    Yields known (fun items => known → ∀ item ∈ items, holds item) (itemsOf value) := by
  unfold itemsOf
  split
  · exact .ok fun _ item member => nomatch member
  · rename_i items form
    refine .ok fun given => each given items ?_
    rw [Reading.listed?, form]
  · exact .refuse _

/-- A field or argument keeps what it holds at a key other than those that are resolved. -/
theorem resolveMember_yields {holds : Value → Prop} {value : Value} {key : String}
    (apart : key ≠ "source" ∧ key ≠ "type" ∧ key ≠ "is_nullable")
    (held : known → value.At key holds) (place : String) (nullable : Bool) :
    Yields known (fun member => known → member.At key holds)
      (resolveMember place nullable value) := by
  obtain ⟨source, type, flag⟩ := apart
  unfold resolveMember
  -- With a source or without one, only the three keys of the resolution are set.
  split
  · rename_i entries form
    split
    · refine .ok fun given _ found same at_key => ?_
      cases same
      rw [Entries.get?_setDefault, if_neg flag, Entries.get?_erase, if_neg source] at at_key
      exact held given entries found form at_key
    · refine (parseSource_yields _ _).bind fun described _ => ?_
      refine Yields.bind (.lookup _ fun cache => cache.resolve described) fun resolved _ => ?_
      refine .ok fun given _ found same at_key => ?_
      cases same
      rw [Entries.get?_setDefault, if_neg flag, Entries.get?_setDefault, if_neg type,
        Entries.get?_erase, if_neg source] at at_key
      exact held given entries found form at_key
  · exact .refuse _

/-- Fields or arguments keep what each of them holds at such a key. -/
theorem resolveMembers_yields {holds : Value → Prop} {values : List Value} {key : String}
    (apart : key ≠ "source" ∧ key ≠ "type" ∧ key ≠ "is_nullable")
    (held : known → ∀ value ∈ values, value.At key holds) (place : String) (nullable : Bool)
    (index : Nat) :
    Yields known (fun members => known → ∀ member ∈ members, member.At key holds)
      (resolveMembers place nullable index values) := by
  -- The members are resolved one by one.
  induction values generalizing index with
  | nil => exact .ok fun _ member inside => nomatch inside
  | cons value rest ih =>
    unfold resolveMembers
    refine (resolveMember_yields apart (fun given => held given value List.mem_cons_self) _ _).bind
      fun member first => ?_
    refine (ih (fun given other inside => held given other (List.mem_cons_of_mem value inside))
      (index + 1)).bind fun members others => ?_
    refine .ok fun given other inside => ?_
    rcases List.mem_cons.mp inside with rfl | inside
    · exact first given
    · exact others given other inside

/-- Resolving the members at a key leaves the rest, and what the members hold at other keys. -/
theorem resolveAt_yields {holds : Value → Prop} {entries : Entries} {key inner : String}
    (apart : inner ≠ "source" ∧ inner ≠ "type" ∧ inner ≠ "is_nullable")
    (held : known → (Value.mapping entries).At key (Value.Each fun member =>
      member.At inner holds)) (place : String) (nullable : Bool) :
    Yields known (fun resolved => entries.SameBeyond [key] resolved ∧
      (known → (Value.mapping resolved).At key (Value.Each fun member => member.At inner holds)))
      (resolveAt key place nullable entries) := by
  unfold resolveAt
  split
  · exact .ok ⟨fun _ _ => rfl, held⟩
  · rename_i value at_key
    refine (itemsOf_yields fun given => held given entries value rfl at_key).bind
      fun items each => ?_
    refine (resolveMembers_yields apart each _ nullable 0).bind fun members kept => ?_
    -- The members are put back at their key, and at no other.
    refine .ok ⟨fun other beyond => ?_, ?_⟩
    · rw [Entries.get?_set, if_neg fun same => beyond (List.mem_singleton.mpr same)]
    · intro given _ found same at_key
      cases same
      rw [Entries.get?_set, if_pos rfl] at at_key
      cases at_key
      rintro _ ⟨⟩ member inside
      exact kept given member inside

/-! ## Types -/

/-- What is given at a key is what the key holds, and is not null. -/
theorem given?_eq_some {key : String} {entries : Entries} {value : Value} :
    given? key entries = some value ↔ Entries.get? key entries = some value ∧ value ≠ .null := by
  unfold given?
  split
  · rename_i null
    rw [null]
    exact ⟨nofun, fun ⟨same, present⟩ => (present (Option.some.inj same).symm).elim⟩
  · rename_i present
    refine ⟨fun same => ⟨same, ?_⟩, And.left⟩
    rintro rfl
    exact present same

/-- A text that is read is a text or bytes that encode it. -/
theorem text_or_bytes {value : Value} {text : String} (read : Reading.text value = .ok text) :
    value = .text text ∨
      ∃ bytes, value = .scalar (.bytes bytes) ∧ Utf8.decode bytes = .ok text := by
  unfold Reading.text at read
  split at read
  · cases read
    exact .inl rfl
  · rename_i bytes
    split at read
    · rename_i decoded
      cases read
      exact .inr ⟨bytes, rfl, decoded⟩
    · cases read
  · cases read

/-- A value that is not the name of a root type in bytes. -/
def IsFreeName (value : Value) : Prop :=
  ∀ bytes name, value = .scalar (.bytes bytes) → Utf8.decode bytes = .ok name →
    Root.isName name = false

/-- The type that is read has the name that its entries spell: resolving leaves the name alone. -/
theorem resolvedType_named {value : Value} {entries : Entries} (whole : known → value.NamesType)
    (form : value.unfolded = .mapping entries) (place : String) :
    Yields known (fun type => value.Spells "name" type.name)
      (do
        let resolved ← resolveAt "fields" place true entries
        ofReading .invalid (NamedType.read (.mapping resolved))) := by
  have fields (given : known) : (Value.mapping entries).At "fields"
      (Value.Each Value.NamesField) := by
    rintro _ found ⟨⟩
    exact (whole given).fields entries found form
  refine (resolveAt_yields (by decide) fields place true).bind fun resolved kept => ?_
  obtain ⟨same, fields⟩ := kept
  -- The keys beside the fields hold what they held before.
  have named : Reading.Yields known
      (fun type => type.Distinct ∧ (Value.mapping resolved).Spells "name" type.name)
      (NamedType.read (.mapping resolved)) := by
    refine NamedType.read_yields fun given => ⟨?_, fields given, ?_⟩
    · rintro _ found ⟨⟩ held
      rw [same "name" (by decide)] at held
      exact (whole given).name entries found form held
    · rintro _ found ⟨⟩ held
      rw [same "directives" (by decide)] at held
      exact (whole given).directives entries found form held
  refine .ofReading (named.imp fun type own => ?_)
  obtain ⟨-, _, found, ⟨⟩, held, read⟩ := own
  rw [same "name" (by decide)] at held
  exact ⟨entries, found, form, held, read⟩

/-- A type has the name that its value spells, and is found or refused if its names can be told. -/
theorem type_named {value : Value} (whole : known → value.NamesType) (place : String) :
    Yields known (fun type => value.Spells "name" type.name ∧
      value.At "name" fun name => ∀ word, name = .text word → Root.isName word = false)
      (type place value) := by
  unfold type
  split
  · rename_i entries form
    have resolved := resolvedType_named whole form place
    dsimp only
    -- A name that is a text is compared with the root types before anything is resolved.
    split
    · rename_i name held
      split
      · have refused : Yields known (fun _ : PUnit => False) (refuse (.reservedName name)) :=
          .refuse _
        exact refused.bind fun _ nothing => nothing.elim
      · rename_i apart
        refine resolved.imp fun type own => ⟨own, ?_⟩
        rintro _ found same held' word rfl
        cases form.symm.trans same
        cases held.symm.trans held'
        simpa using apart
    · rename_i other
      refine resolved.imp fun type own => ⟨own, ?_⟩
      rintro _ found same held word rfl
      cases form.symm.trans same
      exact absurd held (other word)
  · exact .refuse _

/-- A type is not named like a root type, and is found or refused if its names can be told. -/
theorem type_yields {value : Value} (whole : known → value.NamesType)
    (free : value.At "name" IsFreeName) (place : String) :
    Yields known (fun type => Root.isName type.name = false) (type place value) := by
  refine (type_named whole place).imp fun type named => ?_
  obtain ⟨⟨entries, found, form, held, read⟩, apart⟩ := named
  rcases text_or_bytes read with rfl | ⟨bytes, rfl, decoded⟩
  · exact apart entries _ form held type.name rfl
  · exact free entries _ form held bytes type.name rfl decoded

/-! ## Operations -/

/-- An operation whose field can be shown: it holds no integer that is too long to be written. -/
def IsShown (value : Value) : Prop :=
  value.At "field_name" fun field => field.hasOverlong = false

/-- A declared return type, or a fault. -/
theorem declaredReturn_yields (entries : Entries) :
    Yields known (fun _ => True) (declaredReturn entries) := by
  unfold declaredReturn
  split
  · exact .ok trivial
  · exact .ok trivial
  · exact .refuse _

/-- The return type of a source, or a fault. -/
theorem returnedBy_yields (place : String) (source : Source) (declared : Option String) :
    Yields known (fun _ => True) (returnedBy place source declared) := by
  unfold returnedBy
  have noted : Yields known (fun _ => True) (modify fun trail : Trail =>
      { trail with wrappings := trail.wrappings ++ (source.wrapping? declared).toList }) := by
    refine ⟨fun _ _ _ => trivial, ?_⟩
    rintro - trail accident ⟨⟩
  exact noted.bind fun _ _ => .lookup place fun cache => source.returned cache declared

/-- Finding the return type leaves all but the keys concerned. -/
theorem resolveReturn_yields {entries : Entries} (shown : known → IsShown (.mapping entries))
    (place : String) :
    Yields known (fun found => entries.SameBeyond ["source_return", "return_type"] found.1)
      (resolveReturn place entries) := by
  have erased : entries.SameBeyond ["source_return", "return_type"]
      (Entries.erase "source_return" entries) := by
    intro key beyond
    rw [Entries.get?_erase, if_neg fun same => beyond (by simp [same])]
  have typed (text : String) : entries.SameBeyond ["source_return", "return_type"]
      (Entries.set (.text "return_type") (.text text) (Entries.erase "source_return" entries)) := by
    intro key beyond
    rw [Entries.get?_set, if_neg fun same => beyond (by simp [same])]
    exact erased key beyond
  have checked : Yields known (fun _ => True) (checkShown entries) := by
    unfold checkShown
    split
    · rename_i overlong
      refine ⟨fun _ _ _ => trivial, fun given => ?_⟩
      obtain ⟨field, held, long⟩ := Option.any_eq_true _ _ |>.mp overlong
      rw [shown given entries field rfl held] at long
      cases long
    · exact .ok trivial
  -- Each branch erases the source, and may set the type.
  unfold resolveReturn
  refine (declaredReturn_yields entries).bind fun declared _ => ?_
  dsimp only
  split
  · refine (parseSource_yields _ _).bind fun source _ => ?_
    exact (returnedBy_yields _ source declared).bind fun text _ => .ok (typed text)
  · split
    · exact .ok erased
    · exact checked.bind fun _ _ => .ok (typed _)

/-- An operation is found or refused if its names can be told and its field can be shown. -/
theorem operation_yields {value : Value} (whole : known → value.NamesOperation)
    (shown : known → IsShown value) (place : String) :
    Yields known (fun _ => True) (operation place value) := by
  unfold operation
  split
  · rename_i entries form
    have shownAlike (given : known) : IsShown (.mapping entries) := by
      intro _ found same
      cases same
      exact shown given entries found form
    refine (resolveReturn_yields shownAlike place).bind fun found kept => ?_
    dsimp only
    have arguments : Yields known (fun resolved => found.1.SameBeyond ["arguments"] resolved ∧
        (known → (Value.mapping resolved).At "arguments"
          (Value.Each fun member => member.At "directives" fun _ => True)))
        (resolveAt "arguments" place false found.1) :=
      resolveAt_yields (by decide) (fun _ _ _ _ _ _ _ _ _ _ _ _ _ => trivial) place false
    refine arguments.bind fun resolved others => ?_
    -- Neither the return type nor the arguments have a name in them that a refusal shows.
    have same (key : String) (beyond : key ∉ ["source_return", "return_type", "arguments"]) :
        Entries.get? key resolved = Entries.get? key entries := by
      simp only [List.mem_cons, List.not_mem_nil, or_false, not_or] at beyond
      rw [others.1 key (by simp [beyond]), kept key (by simp [beyond])]
    have read : Reading.Yields known
        (fun operation => ∀ directive ∈ operation.directives, directive.Distinct)
        (Operation.read (.mapping resolved)) := by
      refine Operation.read_yields fun given => ⟨?_, ?_⟩
      · rintro _ field ⟨⟩ held
        rw [same "field_name" (by decide)] at held
        exact (whole given).fieldName entries field form held
      · rintro _ listed ⟨⟩ held
        rw [same "directives" (by decide)] at held
        exact (whole given).directives entries listed form held
    exact (Yields.ofReading read).bind fun _ _ => .ok trivial
  · exact .refuse _

end Extraction

namespace Verdict.Follows

variable {κ : Type} [DecidableEq κ] {key : α → κ}
  {verdict : Nat → Value → Except Accident (Verdict α)} {code : DiagnosticCode}
  {places : Nat → String} {extract : Value → Except ExtractionEnd α} {values : List Value}
  {verdicts : List (Verdict α)}

/-- What is kept has keys of its own. -/
theorem settle_distinct (follows : Follows verdict code places extract)
    (found : all verdict 0 values = .ok verdicts) :
    ((settle key [] verdicts).1.map key).Nodup := by
  rw [follows.settle_fst found]
  exact (firsts_distinct [] _).1

/-- What is kept is what some value is extracted to. -/
theorem exists_of_mem_settle (follows : Follows verdict code places extract)
    (found : all verdict 0 values = .ok verdicts) {item : α}
    (member : item ∈ (settle key [] verdicts).1) :
    ∃ value ∈ values, extract value = .ok item := by
  rw [follows.settle_fst found, List.reduceOption_mem_iff] at member
  obtain ⟨value, inside, accepted⟩ := List.mem_map.mp (mem_of_mem_firsts member)
  refine ⟨value, inside, ?_⟩
  cases extracted : extract value with
  | error error =>
    rw [extracted] at accepted
    cases accepted
  | ok same =>
    rw [extracted] at accepted
    cases accepted
    rfl

end Verdict.Follows

namespace Load

/-! ## Documents -/

/-- A top-level key holds something that is neither null nor a list. -/
def Misplaces (key : String) (entries : Entries) : Prop :=
  ∃ value, Entries.get? key entries = some value ∧ value ≠ .null ∧
    ∀ items, value.unfolded ≠ .list items

/-- A description is neither absent, null, a text, nor bytes that encode a text. -/
def Misdescribes (description : Option Value) : Prop :=
  ∃ value, description = some value ∧ value ≠ .null ∧ (∀ text, value ≠ .text text) ∧
    ∀ bytes text, value = .scalar (.bytes bytes) → Utf8.decode bytes ≠ .ok text

/-- What can be wrong with a document as a whole. -/
inductive Mistaken (entries : Entries) : Prop where
  | types (misplaced : Misplaces "types" entries)
  | operations (misplaced : Misplaces "operations" entries)
  | description (misdescribed : Misdescribes (Entries.get? "description" entries))

/--
A document whose entries can be told by name: the names that a refusal may show have no halves of
characters, no type has the name of a root type in bytes, and the field of an operation can be
shown.
-/
structure NamesPlainly (entries : Entries) : Prop where
  types : ∀ items, topLevelItems "types" entries = .ok items → ∀ item ∈ items, item.NamesType
  free : ∀ items, topLevelItems "types" entries = .ok items →
    ∀ item ∈ items, item.At "name" Extraction.IsFreeName
  operations : ∀ items, topLevelItems "operations" entries = .ok items →
    ∀ item ∈ items, item.NamesOperation
  shown : ∀ items, topLevelItems "operations" entries = .ok items →
    ∀ item ∈ items, Extraction.IsShown item

/-- A key is misplaced where what is given there is no list. -/
theorem misplaces_iff {key : String} {entries : Entries} :
    Misplaces key entries ↔ ∃ value, Extraction.given? key entries = some value ∧
      ∀ items, value.unfolded ≠ .list items := by
  simp only [Misplaces, Extraction.given?_eq_some, and_assoc]

/-- The items at a top-level key are found unless it holds neither null nor a list. -/
theorem topLevelItems_cases (key : String) (entries : Entries) :
    ((∃ items, topLevelItems key entries = .ok items) ∧ ¬ Misplaces key entries) ∨
      ((∃ fault, topLevelItems key entries = .error fault ∧ fault.kind = .validation) ∧
        Misplaces key entries) := by
  rw [misplaces_iff]
  unfold topLevelItems
  -- The branches are those of finding the items: nothing is given, a list is, or something else.
  split
  · rename_i absent
    refine .inl ⟨⟨[], rfl⟩, ?_⟩
    rintro ⟨value, given, -⟩
    simp [given] at absent
  · rename_i items listed
    refine .inl ⟨⟨items, rfl⟩, ?_⟩
    rintro ⟨value, given, unlisted⟩
    rw [given, Option.map_some, Option.some.injEq] at listed
    exact unlisted items listed
  · rename_i form unlisted shown
    obtain ⟨value, given, rfl⟩ := Option.map_eq_some_iff.mp shown
    exact .inr ⟨⟨_, rfl, rfl⟩, value, given, unlisted⟩

/-- A text that is neither a text nor bytes that encode one is not read. -/
theorem text_cases (value : Value) :
    (∃ text, Reading.text value = .ok text ∧ (value = .text text ∨
        ∃ bytes, value = .scalar (.bytes bytes) ∧ Utf8.decode bytes = .ok text)) ∨
      ∃ problems, Reading.text value = .error problems ∧ (∀ text, value ≠ .text text) ∧
        ∀ bytes text, value = .scalar (.bytes bytes) → Utf8.decode bytes ≠ .ok text := by
  cases read : Reading.text value with
  | ok text => exact .inl ⟨text, rfl, Extraction.text_or_bytes read⟩
  | error problems =>
    refine .inr ⟨problems, rfl, ?_, ?_⟩
    · rintro text rfl
      cases read
    · rintro bytes text rfl decoded
      rw [Reading.text, decoded] at read
      cases read

/-- A description is read unless it is no text. -/
theorem description_cases (description : Option Value) :
    ((∃ text, Reading.nullable Reading.text (description.getD .null) = .ok text) ∧
        ¬ Misdescribes description) ∨
      ((∃ problems, Reading.nullable Reading.text (description.getD .null) = .error problems) ∧
        Misdescribes description) := by
  cases description with
  | none =>
    refine .inl ⟨⟨none, rfl⟩, ?_⟩
    rintro ⟨value, ⟨⟩, -⟩
  | some value =>
    rw [Option.getD_some]
    by_cases null : value = .null
    · subst null
      refine .inl ⟨⟨none, rfl⟩, ?_⟩
      rintro ⟨value, ⟨⟩, other, -⟩
      exact other rfl
    -- What is not null is read as a text.
    rw [Reading.nullable_of_ne_null null]
    obtain ⟨text, read, spelled⟩ | ⟨problems, failed, untold, undecoded⟩ := text_cases value
    · rw [read]
      refine .inl ⟨⟨some text, rfl⟩, ?_⟩
      rintro ⟨_, ⟨⟩, -, untold, undecoded⟩
      rcases spelled with same | ⟨bytes, same, decoded⟩
      · exact untold text same
      · exact undecoded bytes text same decoded
    · rw [failed]
      exact .inr ⟨⟨problems, rfl⟩, value, rfl, null, untold, undecoded⟩

/-- What the entries of a document come to makes a schema, whatever its description is. -/
theorem exists_make_extracted {entries : Entries}
    (free : ∀ items, topLevelItems "types" entries = .ok items →
      ∀ item ∈ items, item.At "name" Extraction.IsFreeName)
    {found : Extracted} (extracted : extracted entries = .ok found) (description : Option String) :
    ∃ schema, Schema.make found.types found.operations description = .ok schema := by
  obtain ⟨types, types_eq, stages⟩ := Except.ok_of_bind extracted
  obtain ⟨keptTypes, typesSettled, stages⟩ := Except.ok_of_bind stages
  obtain ⟨operations, operations_eq, stages⟩ := Except.ok_of_bind stages
  obtain ⟨keptOperations, operationsSettled, stages⟩ := Except.ok_of_bind stages
  cases stages
  obtain ⟨typeVerdicts, types_ruled, rfl⟩ := settled_eq_ok typesSettled
  obtain ⟨operationVerdicts, operations_ruled, rfl⟩ := settled_eq_ok operationsSettled
  have follows := typeVerdict_follows ""
  -- A kept type comes from a declaration, which has no reserved name.
  have typesFree (type : NamedType)
      (member : type ∈ (Verdict.settle NamedType.name [] typeVerdicts).1) :
      Root.isName type.name = false := by
    obtain ⟨value, inside, found⟩ := follows.exists_of_mem_settle types_ruled member
    have own := free types (Except.ok_of_mapError types_eq) value inside
    have yields : Extraction.Yields False (fun type => Root.isName type.name = false)
        (Extraction.type "" value) := Extraction.type_yields False.elim own ""
    exact yields.found {} type found
  obtain ⟨schema, made, -⟩ := Schema.exists_make (follows.settle_distinct types_ruled) typesFree
    ((operationVerdict_follows "").settle_distinct operations_ruled) description
  exact ⟨schema, made⟩

/-- A type whose names can be told is no accident. -/
theorem type_calm {value : Value} (named : value.NamesType) (place : String)
    (accident : Accident) : typeAlone place value ≠ .error (.accident accident) := by
  have yields : Extraction.Yields True _ (Extraction.type place value) :=
    Extraction.type_named (fun _ => named) place
  exact yields.calm trivial {} accident

/-- An operation whose names can be told and whose field can be shown is no accident. -/
theorem operation_calm {value : Value} (named : value.NamesOperation)
    (shown : Extraction.IsShown value) (place : String) (accident : Accident) :
    operationAlone place value ≠ .error (.accident accident) := by
  intro ended
  have yields : Extraction.Yields True _ (Extraction.operation place value) :=
    Extraction.operation_yields (fun _ => named) (fun _ => shown) place
  -- The field that is shown with an operation makes no difference to its end.
  exact yields.calm trivial {} accident (alone_of_operationAlone ended)

/-- What a document comes to is no accident: its items are listed, or a key is misplaced. -/
theorem extracted_cases {entries : Entries} (plain : NamesPlainly entries) :
    ((∃ found, extracted entries = .ok found) ∧ ¬ Misplaces "types" entries ∧
        ¬ Misplaces "operations" entries) ∨
      ((∃ fault, extracted entries = .error (.fault fault) ∧ fault.kind = .validation) ∧
        (Misplaces "types" entries ∨ Misplaces "operations" entries)) := by
  -- Stage by stage: a list that is missing ends the loading, and no entry does.
  obtain ⟨⟨types, types_eq⟩, typesPlaced⟩ | ⟨⟨fault, failed, kind⟩, misplaced⟩ :=
    topLevelItems_cases "types" entries
  case inr =>
    refine .inr ⟨⟨fault, ?_, kind⟩, .inl misplaced⟩
    simp only [extracted, failed, Except.mapError, bind, Except.bind]
  obtain ⟨typeVerdicts, types_ruled⟩ :=
    (typeVerdict_follows "").exists_all 0 fun value member =>
      type_calm (plain.types types types_eq value member) ""
  obtain ⟨⟨operations, operations_eq⟩, operationsPlaced⟩ | ⟨⟨fault, failed, kind⟩, misplaced⟩ :=
    topLevelItems_cases "operations" entries
  case inr =>
    refine .inr ⟨⟨fault, ?_, kind⟩, .inr misplaced⟩
    simp only [extracted, types_eq, settled, types_ruled, failed, Except.map, Except.mapError, bind,
      Except.bind]
  obtain ⟨operationVerdicts, operations_ruled⟩ :=
    (operationVerdict_follows "").exists_all 0 fun value member =>
      operation_calm (plain.operations operations operations_eq value member)
        (plain.shown operations operations_eq value member) ""
  refine .inl ⟨?_, typesPlaced, operationsPlaced⟩
  simp only [extracted, types_eq, settled, types_ruled, operations_eq, operations_ruled, Except.map,
    Except.mapError, bind, Except.bind]
  exact ⟨_, rfl⟩

/-- A document has a report unless it is mistaken, and is faulty if it is. -/
theorem reported_cases {entries : Entries} (plain : NamesPlainly entries) :
    ((∃ report, reported entries = .ok report) ∧ ¬ Mistaken entries) ∨
      ((∃ fault, reported entries = .error (.fault fault) ∧ fault.kind = .validation) ∧
        Mistaken entries) := by
  -- The types and operations come first, and then the description.
  obtain ⟨⟨found, extracted⟩, typesPlaced, operationsPlaced⟩ |
    ⟨⟨fault, failed, kind⟩, misplaced⟩ := extracted_cases plain
  case inr =>
    refine .inr ⟨⟨fault, ?_, kind⟩, misplaced.elim .types .operations⟩
    simp only [reported, failed, bind, Except.bind]
  obtain ⟨⟨text, read⟩, described⟩ | ⟨⟨problems, failed⟩, misdescribed⟩ :=
    description_cases (Entries.get? "description" entries)
  case inr =>
    have ended : reported entries = .error (.fault (invalidSchema (problems.map fun problem =>
        { problem with path := "description" :: problem.path }))) := by
      simp only [reported, extracted, assemble, failed, bind, Except.bind]
      rfl
    exact .inr ⟨⟨_, ended, rfl⟩, .description misdescribed⟩
  obtain ⟨schema, made⟩ := exists_make_extracted plain.free extracted text
  refine .inl ⟨⟨⟨schema, found.diagnostics⟩, ?_⟩, ?_⟩
  · simp only [reported, extracted, assemble, read, Reading.below_ok, made, bind, Except.bind]
    rfl
  · rintro (misplaced | misplaced | misdescribed)
    · exact typesPlaced misplaced
    · exact operationsPlaced misplaced
    · exact described misdescribed

/--
Loading a document fails exactly where the document is mistaken as a whole, and then with a fault of
validation. What has been loaded before does not matter, and neither does what the entries hold as
long as they can be told by name: types and operations that are extracted always make a schema.
-/
theorem load_total (history : List Step) {entries : Entries} (plain : NamesPlainly entries) :
    ((∃ trouble, ((load entries).run { cache := Step.cacheAfter {} history }).1 =
        .error trouble) ↔ Mistaken entries) ∧
      (∀ trouble, ((load entries).run { cache := Step.cacheAfter {} history }).1 =
        .error trouble → ∃ fault, trouble = .fault fault ∧ fault.kind = .validation) ∧
      (∀ found, ((extract entries).run { cache := Step.cacheAfter {} history }).1 = .ok found →
        ∀ description, ∃ schema,
          Schema.make found.types found.operations description = .ok schema) := by
  have faithful := Step.cacheAfter_faithful TypeCache.faithful_empty history
  rw [(load_gives entries).answer faithful, (extract_gives entries).answer faithful]
  refine ⟨?_, ?_, fun found extracted => exists_make_extracted plain.free extracted⟩
  · obtain ⟨⟨report, reported⟩, right⟩ | ⟨⟨fault, failed, -⟩, mistaken⟩ := reported_cases plain
    · rw [reported]
      exact ⟨nofun, fun mistaken => absurd mistaken right⟩
    · exact ⟨fun _ => mistaken, fun _ => ⟨_, failed⟩⟩
  · intro trouble ended
    obtain ⟨⟨report, reported⟩, -⟩ | ⟨⟨fault, failed, kind⟩, -⟩ := reported_cases plain
    · rw [reported] at ended
      cases ended
    · rw [failed] at ended
      cases ended
      exact ⟨fault, rfl, kind⟩

/-- A document with a usable type, an entry that is none, and a number for a description. -/
def numberedDocument : Entries :=
  [(.text "types", .list [.mapping [(.text "name", .text "Post")], .scalar (.int 7)]),
    (.text "description", .scalar (.int 7))]

/-- The names in the document with a number for a description can be told. -/
theorem numberedDocument_namesPlainly : NamesPlainly numberedDocument := by
  have types : topLevelItems "types" numberedDocument =
      .ok [.mapping [(.text "name", .text "Post")], .scalar (.int 7)] := rfl
  have operations : topLevelItems "operations" numberedDocument = .ok [] := rfl
  -- The one mapping has a name only, and a number holds nothing at any key.
  constructor
  · intro items found item member
    cases types.symm.trans found
    rcases List.mem_cons.mp member with rfl | member
    · refine ⟨?_, ?_, ?_⟩
      · rintro _ name ⟨⟩ ⟨⟩ text ⟨⟩
        decide +kernel
      · rintro _ fields ⟨⟩ ⟨⟩
      · rintro _ directives ⟨⟩ ⟨⟩
    · cases List.mem_singleton.mp member
      exact ⟨nofun, nofun, nofun⟩
  · intro items found item member
    cases types.symm.trans found
    rcases List.mem_cons.mp member with rfl | member
    · rintro _ name ⟨⟩ ⟨⟩ bytes text ⟨⟩
    · cases List.mem_singleton.mp member
      exact nofun
  · intro items found item member
    cases operations.symm.trans found
    cases member
  · intro items found item member
    cases operations.symm.trans found
    cases member

/-- The document with a number for a description fails, loaded a second time through one cache. -/
theorem load_numberedDocument :
    NamesPlainly numberedDocument ∧ Mistaken numberedDocument ∧
      ∃ trouble, ((load numberedDocument).run
        { cache := Step.cacheAfter {} [.load numberedDocument] }).1 = .error trouble := by
  have mistaken : Mistaken numberedDocument :=
    .description ⟨.scalar (.int 7), rfl, nofun, nofun, nofun⟩
  have plain := numberedDocument_namesPlainly
  exact ⟨plain, mistaken, (load_total [.load numberedDocument] plain).1.mpr mistaken⟩

/-- A document whose description is the text "hi" in bytes. -/
def encodedDescription : Entries :=
  [(.text "description", .scalar (.bytes [104, 105]))]

/-- A document with a type that has the name of a root type in bytes. -/
def encodedName : Entries :=
  [(.text "types", .list [.mapping [
    (.text "name", .scalar (.bytes [81, 117, 101, 114, 121]))]])]

/-- A document with an operation whose field is half a character, and which has no data source. -/
def halfNamed : Entries :=
  [(.text "operations", .list [.mapping [
    (.text "root_type", .text "Query"),
    (.text "field_name", .text (String.singleton (Text.ofCode 0xd83d))),
    (.text "return_type", .text "Int")]])]

/--
A description in bytes is loaded though it is no text, a type named in bytes like a root type fails
the whole document, and so does a refusal that would have to show half a character.
-/
theorem load_encoded :
    (loadFresh encodedDescription).toOption.map (·.schema.description) = some (some "hi") ∧
      (loadFresh encodedName).map Report.excluded =
        .error (.fault (invalidSchema [⟨[], .refused (.reservedType "Query")⟩])) ∧
      (loadFresh halfNamed).map Report.excluded = .error (.accident (.unencodable
        "'utf-8' codec can't encode character '\\ud83d' in position 15: surrogates not allowed")) := by
  refine ⟨?_, ?_, ?_⟩ <;> decide +kernel

end Load

end AppSync
