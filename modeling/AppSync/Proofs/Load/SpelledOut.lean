import AppSync.Proofs.Document.Lookup
import AppSync.Proofs.Load.Session

/-!
Sources of a document are short for what they resolve to. A document in which some of them are
spelled out is loaded with the same outcome, whatever was resolved before.
-/

namespace AppSync

open Trailing (Gives Parallel alone)

namespace Load

/-- Entries with the type and nullability of their source, unless stated, in its place. -/
structure SourceSpelledOut (resolved : ResolvedType) (entries others : Entries) : Prop where
  stripped : others.get? "source" = none
  typed : others.get? "type" = some ((entries.get? "type").getD (.text resolved.name))
  nullable : others.get? "is_nullable" =
    some ((entries.get? "is_nullable").getD (.bool resolved.isNullable))
  rest : entries.SameBeyond ["source", "type", "is_nullable"] others

/-- A field or argument as it is, or with its source spelled out. -/
inductive MemberSpelledOut : Value → Value → Prop where
  | same (value : Value) : MemberSpelledOut value value
  | source {value plain raw : Value} {entries others : Entries} {source : Source}
    {resolved : ResolvedType} (form : value.unfolded = .mapping entries)
    (plainForm : plain.unfolded = .mapping others)
    (given : Extraction.given? "source" entries = some raw)
    (parsed : Source.ofValue raw = .ok source) (resolves : source.lookup = .ok resolved)
    (spelled : SourceSpelledOut resolved entries others) : MemberSpelledOut value plain

/-- What is at a key as it is, or a list with items that are spelled out. -/
inductive ListSpelledOut (item : Value → Value → Prop) : Option Value → Option Value → Prop where
  | same (held : Option Value) : ListSpelledOut item held held
  | items {value plain : Value} {values plains : List Value} (form : value.unfolded = .list values)
    (plainForm : plain.unfolded = .list plains) (paired : List.Forall₂ item values plains) :
    ListSpelledOut item (some value) (some plain)

/-- Entries that hold the same but for members at a key, of which some are spelled out. -/
structure MembersSpelledOut (key : String) (entries others : Entries) : Prop where
  members : ListSpelledOut MemberSpelledOut (entries.get? key) (others.get? key)
  rest : entries.SameBeyond [key] others

/-- A type as it is, or with the sources of some fields spelled out. -/
inductive TypeSpelledOut : Value → Value → Prop where
  | same (value : Value) : TypeSpelledOut value value
  | mapping {value plain : Value} {entries others : Entries}
    (form : value.unfolded = .mapping entries) (plainForm : plain.unfolded = .mapping others)
    (fields : MembersSpelledOut "fields" entries others) : TypeSpelledOut value plain

/-- A stated return type as it is, or with what a source and the statement give in their place. -/
inductive ReturnSpelledOut (entries others : Entries) : Prop where
  | same (sources : others.get? "source_return" = entries.get? "source_return")
    (stated : others.get? "return_type" = entries.get? "return_type")
  | source {raw : Value} {source : Source} {declared : Option String} {text : String}
    (given : Extraction.given? "source_return" entries = some raw)
    (parsed : Source.ofValue raw = .ok source)
    (declares : Extraction.given? "return_type" entries = declared.map Value.text)
    (resolves : source.returnedAlone declared = .ok text) (nonempty : text ≠ "")
    (stripped : others.get? "source_return" = none)
    (stated : others.get? "return_type" = some (.text text))

/-- An operation as it is, or with the sources of some arguments or the return type spelled out. -/
inductive OperationSpelledOut : Value → Value → Prop where
  | same (value : Value) : OperationSpelledOut value value
  | mapping {value plain : Value} {entries others : Entries}
    (form : value.unfolded = .mapping entries) (plainForm : plain.unfolded = .mapping others)
    (returned : ReturnSpelledOut entries others)
    (arguments :
      ListSpelledOut MemberSpelledOut (entries.get? "arguments") (others.get? "arguments"))
    (rest : entries.SameBeyond ["source_return", "return_type", "arguments"] others) :
    OperationSpelledOut value plain

/-- A document with any of its sources spelled out. -/
structure SpelledOut (entries others : Entries) : Prop where
  types : ListSpelledOut TypeSpelledOut (entries.get? "types") (others.get? "types")
  operations :
    ListSpelledOut OperationSpelledOut (entries.get? "operations") (others.get? "operations")
  rest : entries.SameBeyond ["types", "operations"] others

/-- Every source that resolves can be spelled out in its entries. -/
theorem sourceSpelledOut (resolved : ResolvedType) (entries : Entries) :
    SourceSpelledOut resolved entries
      (Entries.setDefault "is_nullable" (.bool resolved.isNullable)
        (Entries.setDefault "type" (.text resolved.name) (Entries.erase "source" entries))) := by
  constructor
  · simp [Entries.get?_setDefault, Entries.get?_erase]
  · simp [Entries.get?_setDefault, Entries.get?_erase]
  · simp [Entries.get?_setDefault, Entries.get?_erase]
  · intro key outside
    simp only [List.mem_cons, List.not_mem_nil, or_false, not_or] at outside
    simp [Entries.get?_setDefault, Entries.get?_erase, outside]

/-- Entries in which a source is spelled out hold what the source would add to the others. -/
theorem SourceSpelledOut.added {resolved : ResolvedType} {entries others : Entries}
    (spelled : SourceSpelledOut resolved entries others) (nullable : Bool) :
    Entries.SameBeyond []
      (Entries.setDefault "is_nullable" (.bool resolved.isNullable)
        (Entries.setDefault "type" (.text resolved.name) (Entries.erase "source" entries)))
      (Entries.setDefault "is_nullable" (.bool nullable) (Entries.erase "source" others)) := by
  intro key _
  have whole := sourceSpelledOut resolved entries
  -- Both hold the same at each of the three keys, and elsewhere what the document says.
  rw [Entries.get?_setDefault, Entries.get?_erase, Entries.get?_erase, spelled.nullable]
  by_cases isNullable : key = "is_nullable"
  · rw [if_pos isNullable, isNullable, whole.nullable]
    rfl
  rw [if_neg isNullable]
  by_cases isSource : key = "source"
  · rw [if_pos isSource, isSource, whole.stripped]
  rw [if_neg isSource]
  by_cases isType : key = "type"
  · rw [isType, spelled.typed, whole.typed]
  have outside : key ∉ ["source", "type", "is_nullable"] := by simp [isNullable, isSource, isType]
  rw [spelled.rest key outside, whole.rest key outside]

/-- Members stay spelled out where the same is put in at another key. -/
theorem MembersSpelledOut.set {key other : String} {entries others : Entries}
    (spelled : MembersSpelledOut key entries others) (apart : key ≠ other) (value : Value) :
    MembersSpelledOut key (Entries.set (.text other) value entries)
      (Entries.set (.text other) value others) := by
  constructor
  · rw [Entries.get?_set, Entries.get?_set, if_neg apart, if_neg apart]
    exact spelled.members
  · intro found outside
    rw [Entries.get?_set, Entries.get?_set, spelled.rest found outside]

end Load

namespace Extraction

open Load

/-- Nothing is given where a key is absent. -/
theorem given?_eq_none {key : String} {entries : Entries} (missing : entries.get? key = none) :
    given? key entries = none := by
  unfold given?
  rw [missing]

/-- What is given at a key depends on the value there. -/
theorem given?_congr {key : String} {entries others : Entries}
    (same : others.get? key = entries.get? key) : given? key others = given? key entries := by
  unfold given?
  rw [same]

/-- The items of a list are given. -/
theorem itemsOf_gives {value : Value} {values : List Value}
    (form : value.unfolded = .list values) : Gives (itemsOf value) (.ok values) := by
  unfold itemsOf
  rw [form]
  exact .pure values

/-- A source that can be read is given. -/
theorem parseSource_gives {value : Value} {source : Source} (place : String)
    (parsed : Source.ofValue value = .ok source) :
    Gives (parseSource place value) (.ok source) := by
  unfold parseSource ofReading
  rw [parsed]
  exact .pure source

/-- A source gives what it resolves to by itself. -/
theorem resolveSource_gives {source : Source} {resolved : ResolvedType} (place : String)
    (resolves : source.lookup = .ok resolved) :
    Gives (resolveSource place source) (.ok resolved) := by
  have gives := lookup_gives place (fun cache => cache.resolve source)
    (fun faithful => faithful.resolve_eq source) (fun faithful => faithful.resolve source)
  rw [resolves] at gives
  exact gives

/-- A source gives the return type that it has by itself. -/
theorem returnedBy_gives {source : Source} {declared : Option String} {text : String}
    (place : String) (resolves : source.returnedAlone declared = .ok text) :
    Gives (returnedBy place source declared) (.ok text) := by
  have noted (change : Trail → Trail) (kept : ∀ trail, (change trail).cache = trail.cache) :
      Gives (modify change : Extraction Unit) (.ok ()) :=
    (Trailing.Alike.modify kept).gives
  -- Faithful caches answer as the source does alone, whatever has been noted.
  have gives := lookup_gives place (fun cache => source.returned cache declared)
    (fun faithful => faithful.returned_eq source declared)
    (fun faithful => faithful.returned source declared)
  rw [resolves] at gives
  unfold returnedBy
  exact .bind_ok (noted _ fun _ => rfl) gives

variable {place : String} {nullable : Bool}

/-- A member is read the same where its source is spelled out. -/
theorem resolveMember_parallel {γ : Type} {read : Value → γ} (byLookup : Reading.ByLookup read)
    {value plain : Value} (spelled : MemberSpelledOut value plain) :
    Parallel (fun member other => read other = read member) (resolveMember place nullable value)
      (resolveMember place nullable plain) := by
  cases spelled with
  | same =>
    exact .refl (gives_of_alike (resolveMember_alike (fun _ => rfl) nullable value)) fun _ => rfl
  | source form plainForm given parsed resolves spelled =>
    refine .ok ?_ ?_ (byLookup (spelled.added nullable))
    · -- The source is parsed and resolved, and adds what is not stated.
      unfold resolveMember
      rw [form]
      dsimp only
      rw [given]
      refine .bind_ok (parseSource_gives _ parsed) ?_
      exact .bind_ok (resolveSource_gives _ resolves) (.pure _)
    · -- Without a source only the nullability could be missing.
      unfold resolveMember
      rw [plainForm]
      dsimp only
      rw [given?_eq_none spelled.stripped]
      exact .pure _

/-- Members are read the same where some of their sources are spelled out. -/
theorem resolveMembers_parallel {γ : Type} {read : Value → γ} (byLookup : Reading.ByLookup read)
    {values plains : List Value} (spelled : List.Forall₂ MemberSpelledOut values plains)
    (index : Nat) :
    Parallel (fun members others => others.map read = members.map read)
      (resolveMembers place nullable index values)
      (resolveMembers place nullable index plains) := by
  -- The members are paired one by one, each pair at its own place.
  induction spelled generalizing index with
  | nil => exact .ok (.pure []) (.pure []) rfl
  | cons first _ ih =>
    unfold resolveMembers
    refine (resolveMember_parallel byLookup first).bind fun member other same => ?_
    refine (ih (index + 1)).bind fun members others rest => ?_
    exact .ok (.pure _) (.pure _) (by rw [List.map_cons, List.map_cons, same, rest])

/-- Members at a key are read the same where some of their sources are spelled out. -/
theorem resolveAt_parallel {γ : Type} {read : Value → γ} (byLookup : Reading.ByLookup read)
    {key : String} {entries others : Entries} (spelled : MembersSpelledOut key entries others) :
    Parallel (fun resolved found => resolved.SameBut read key found)
      (resolveAt key place nullable entries) (resolveAt key place nullable others) := by
  -- The members that are put in differ at the key only.
  have filled {members found : List Value} (same : found.map read = members.map read) :
      Entries.SameBut read key (Entries.set (.text key) (.list members) entries)
        (Entries.set (.text key) (.list found) others) := by
    constructor
    · intro other outside
      have apart : other ≠ key := fun same => outside (List.mem_singleton.mpr same)
      rw [Entries.get?_set, Entries.get?_set, if_neg apart, if_neg apart,
        spelled.rest other outside]
    · refine .inr ⟨members, found, ?_, ?_, same⟩
      · rw [Entries.get?_set, if_pos rfl]
      · rw [Entries.get?_set, if_pos rfl]
  have listed := spelled.members
  unfold resolveAt
  generalize held : entries.get? key = before at listed
  generalize held' : others.get? key = after at listed
  cases listed with
  | same =>
    cases before with
    | none => exact .ok (.pure _) (.pure _) ⟨spelled.rest, .inl (held'.trans held.symm)⟩
    | some value =>
      -- The same members are resolved on both sides.
      refine .after (gives_of_alike (itemsOf_alike value)) fun values => ?_
      refine .after (gives_of_alike (resolveMembers_alike (fun _ => rfl) nullable 0 values)) ?_
      intro found
      exact .ok (.pure _) (.pure _) (filled rfl)
  | items form plainForm paired =>
    -- Both lists are there, with members in pairs.
    refine (Parallel.ok (itemsOf_gives form) (itemsOf_gives plainForm) paired).bind ?_
    intro values plains paired
    refine (resolveMembers_parallel byLookup paired 0).bind fun members found same => ?_
    exact .ok (.pure _) (.pure _) (filled same)

/-- A type gives the same where the sources of some fields are spelled out. -/
theorem type_parallel {value plain : Value} (spelled : TypeSpelledOut value plain) :
    Parallel Eq (type place value) (type place plain) := by
  cases spelled with
  | same => exact .refl (type_gives place value) fun _ => rfl
  | @mapping _ entries others form plainForm fields =>
    -- Behind the check of the name, which is the same, the fields are read the same.
    have body : Parallel Eq
        (do
          let resolved ← resolveAt "fields" place true entries
          ofReading .invalid (NamedType.read (.mapping resolved)))
        (do
          let resolved ← resolveAt "fields" place true others
          ofReading .invalid (NamedType.read (.mapping resolved))) := by
      refine (resolveAt_parallel Field.read_byLookup fields).bind fun resolved found same => ?_
      rw [NamedType.read_congr same]
      exact .refl (gives_of_alike (ofReading_alike (fun _ => rfl) _)) fun _ => rfl
    unfold type
    rw [form, plainForm]
    dsimp only
    rw [fields.rest "name" (by decide)]
    split
    · split
      · exact .error (.bind_error (.throw _)) (.bind_error (.throw _))
      · exact body
    · exact body

section returns

variable {entries others : Entries}

/-- Apart from arguments and return type the entries of an operation are the same. -/
theorem get?_elsewhere
    (rest : entries.SameBeyond ["source_return", "return_type", "arguments"] others)
    {key : String} (apart : key ≠ "arguments") (unsourced : key ≠ "source_return")
    (unstated : key ≠ "return_type") : others.get? key = entries.get? key :=
  rest key (by simp [apart, unsourced, unstated])

/-- Without their sources, entries with the same return type have their arguments spelled out. -/
theorem membersSpelledOut_erase
    (arguments :
      ListSpelledOut MemberSpelledOut (entries.get? "arguments") (others.get? "arguments"))
    (rest : entries.SameBeyond ["source_return", "return_type", "arguments"] others)
    (stated : others.get? "return_type" = entries.get? "return_type") :
    MembersSpelledOut "arguments" (Entries.erase "source_return" entries)
      (Entries.erase "source_return" others) := by
  constructor
  · simpa [Entries.get?_erase] using arguments
  · -- The source is gone on both sides, the type is the same, and the rest has not changed.
    intro key outside
    have apart : key ≠ "arguments" := fun same => outside (List.mem_singleton.mpr same)
    rw [Entries.get?_erase, Entries.get?_erase]
    by_cases unsourced : key = "source_return"
    · rw [if_pos unsourced, if_pos unsourced]
    by_cases unstated : key = "return_type"
    · rw [unstated, stated]
    · rw [get?_elsewhere rest apart unsourced unstated]

/-- A return type that is left as it is stays the same, with arguments that are spelled out. -/
theorem resolveReturn_unchanged
    (arguments :
      ListSpelledOut MemberSpelledOut (entries.get? "arguments") (others.get? "arguments"))
    (rest : entries.SameBeyond ["source_return", "return_type", "arguments"] others)
    (sources : others.get? "source_return" = entries.get? "source_return")
    (stated : others.get? "return_type" = entries.get? "return_type") :
    Parallel
      (fun typed found => found.2 = typed.2 ∧ MembersSpelledOut "arguments" typed.1 found.1)
      (resolveReturn place entries) (resolveReturn place others) := by
  -- Everything that the return type depends on is the same.
  have declaredSame : declaredReturn others = declaredReturn entries := by
    unfold declaredReturn
    rw [given?_congr stated]
  have shownSame : checkShown others = checkShown entries := by
    unfold checkShown
    rw [rest "field_name" (by decide)]
  have left := membersSpelledOut_erase arguments rest stated
  unfold resolveReturn
  rw [declaredSame, given?_congr sources, shownSame]
  refine .after (gives_of_alike (declaredReturn_alike entries)) fun declared => ?_
  dsimp only
  split
  · -- The source gives the same text on both sides.
    refine .after (gives_of_alike (parseSource_alike (fun _ => rfl) _)) fun source => ?_
    refine .after (gives_of_alike (returnedBy_alike (fun _ => rfl) source declared)) ?_
    intro text
    exact .ok (.pure _) (.pure _) ⟨rfl, left.set (by decide) _⟩
  · split
    · exact .ok (.pure _) (.pure _) ⟨rfl, left⟩
    · refine .after (gives_of_alike (checkShown_alike entries)) fun _ => ?_
      exact .ok (.pure _) (.pure _) ⟨rfl, left.set (by decide) _⟩

/-- A source of a return type gives the text that it has together with what is declared. -/
theorem resolveReturn_sourced {raw : Value} {source : Source} {declared : Option String}
    {text : String} (given : given? "source_return" entries = some raw)
    (parsed : Source.ofValue raw = .ok source)
    (declares : given? "return_type" entries = declared.map Value.text)
    (resolves : source.returnedAlone declared = .ok text) :
    Gives (resolveReturn place entries)
      (.ok (Entries.set (.text "return_type") (.text text)
        (Entries.erase "source_return" entries), false)) := by
  have declared_gives : Gives (declaredReturn entries) (.ok declared) := by
    unfold declaredReturn
    rw [declares]
    cases declared <;> exact .pure _
  -- Stage by stage: what is declared, then the source, then what both come to.
  unfold resolveReturn
  refine .bind_ok declared_gives ?_
  rw [given]
  refine .bind_ok (parseSource_gives _ parsed) ?_
  exact .bind_ok (returnedBy_gives _ resolves) (.pure _)

/-- A return type that is stated without a source is taken, if it is not empty. -/
theorem resolveReturn_stated {text : String} (nonempty : text ≠ "")
    (stripped : others.get? "source_return" = none)
    (stated : others.get? "return_type" = some (.text text)) :
    Gives (resolveReturn place others) (.ok (Entries.erase "source_return" others, false)) := by
  have stated_gives : Gives (declaredReturn others) (.ok (some text)) := by
    unfold declaredReturn given?
    rw [stated]
    exact .pure _
  -- Without a source, a text that counts is left where it stands.
  unfold resolveReturn
  refine .bind_ok stated_gives ?_
  rw [given?_eq_none stripped]
  dsimp only
  rw [if_pos (by simp [Source.declaration?, nonempty])]
  exact .pure _

/-- A return type is the same where it is spelled out, and the arguments stay as they are. -/
theorem resolveReturn_parallel (returned : ReturnSpelledOut entries others)
    (arguments :
      ListSpelledOut MemberSpelledOut (entries.get? "arguments") (others.get? "arguments"))
    (rest : entries.SameBeyond ["source_return", "return_type", "arguments"] others) :
    Parallel
      (fun typed found => found.2 = typed.2 ∧ MembersSpelledOut "arguments" typed.1 found.1)
      (resolveReturn place entries) (resolveReturn place others) := by
  cases returned with
  | same sources stated => exact resolveReturn_unchanged arguments rest sources stated
  | source given parsed declares resolves nonempty stripped stated =>
    refine .ok (resolveReturn_sourced given parsed declares resolves)
      (resolveReturn_stated nonempty stripped stated) ⟨rfl, ?_, ?_⟩
    · simpa [Entries.get?_set, Entries.get?_erase] using arguments
    · -- Other keys are left alone on both sides, and these two end up the same.
      intro key outside
      have apart : key ≠ "arguments" := fun same => outside (List.mem_singleton.mpr same)
      rw [Entries.get?_set, Entries.get?_erase, Entries.get?_erase]
      by_cases unsourced : key = "source_return"
      · rw [if_pos unsourced, if_pos unsourced, if_neg (by rw [unsourced]; decide)]
      by_cases unstated : key = "return_type"
      · rw [if_neg unsourced, if_pos unstated, unstated, stated]
      · rw [if_neg unsourced, if_neg unstated, if_neg unsourced,
          get?_elsewhere rest apart unsourced unstated]

end returns

/-- An operation gives the same where the sources of arguments and return type are spelled out. -/
theorem operation_parallel {value plain : Value} (spelled : OperationSpelledOut value plain) :
    Parallel Eq (operation place value) (operation place plain) := by
  cases spelled with
  | same => exact .refl (operation_gives place value) fun _ => rfl
  | @mapping _ entries others form plainForm returned arguments rest =>
    have shownSame (field : String) : shownField others field = shownField entries field := by
      unfold shownField
      rw [rest "field_name" (by decide)]
    -- The return type comes first, then the arguments, and what is read of both.
    unfold operation
    rw [form, plainForm]
    dsimp only
    refine (resolveReturn_parallel returned arguments rest).bind fun typed found same => ?_
    obtain ⟨flag, spelled⟩ := same
    refine (resolveAt_parallel Argument.read_byLookup spelled).bind fun resolved other same => ?_
    rw [Operation.read_congr same, flag]
    refine .after (gives_of_alike (ofReading_alike (fun _ => rfl) _)) fun operation => ?_
    rw [shownSame]
    exact .ok (.pure _) (.pure _) rfl

end Extraction

namespace Load

/-- The verdict on a type is the same where its sources are spelled out. -/
theorem typeVerdict_spelledOut {value plain : Value} (spelled : TypeSpelledOut value plain)
    (index : Nat) : typeVerdict index plain = typeVerdict index value := by
  have named : Extraction.textAt? "name" plain = Extraction.textAt? "name" value := by
    cases spelled with
    | same => rfl
    | mapping form plainForm fields =>
      unfold Extraction.textAt?
      rw [form, plainForm]
      dsimp only
      rw [fields.rest "name" (by decide)]
  -- A verdict is made of what the type comes to and of the name in its diagnostic.
  unfold typeVerdict Extraction.typeFailure
  rw [(Extraction.type_parallel spelled).alone_eq, named]

/-- The verdict on an operation is the same where its sources are spelled out. -/
theorem operationVerdict_spelledOut {value plain : Value}
    (spelled : OperationSpelledOut value plain) (index : Nat) :
    operationVerdict index plain = operationVerdict index value := by
  have named : Extraction.textAt? "field_name" plain = Extraction.textAt? "field_name" value := by
    cases spelled with
    | same => rfl
    | mapping form plainForm returned arguments rest =>
      unfold Extraction.textAt?
      rw [form, plainForm]
      dsimp only
      rw [rest "field_name" (by decide)]
  -- Its diagnostic names the field, which is the same on both sides.
  unfold operationVerdict Extraction.operationFailure
  rw [(Extraction.operation_parallel spelled).alone_eq, named]

variable {α : Type} (verdict : Nat → Value → Except Accident (Verdict α))
  {item : Value → Value → Prop}

/-- Values have the same verdicts where each of them has. -/
theorem all_spelledOut
    (same : ∀ value plain, item value plain → ∀ index, verdict index plain = verdict index value)
    {values plains : List Value} (paired : List.Forall₂ item values plains) (index : Nat) :
    Verdict.all verdict index plains = Verdict.all verdict index values := by
  -- The pairs are judged one by one, each at its own index.
  induction paired generalizing index with
  | nil => rfl
  | cons first _ ih =>
    unfold Verdict.all
    rw [same _ _ first, ih]

/-- The items at a top-level key are those of a list that is there. -/
theorem topLevelItems_eq_ok {key : String} {entries : Entries} {value : Value}
    {values : List Value} (held : entries.get? key = some value)
    (form : value.unfolded = .list values) : topLevelItems key entries = .ok values := by
  unfold topLevelItems Extraction.given?
  rw [held]
  -- A value that unfolds to a list is no null.
  cases value with
  | scalar value => cases form
  | _ =>
    dsimp only [Option.map_some]
    rw [form]

/-- A list at the top level has the same verdicts where its items are spelled out. -/
theorem verdicts_spelledOut
    (same : ∀ value plain, item value plain → ∀ index, verdict index plain = verdict index value)
    {key : String} {entries others : Entries}
    (spelled : ListSpelledOut item (entries.get? key) (others.get? key)) :
    (topLevelItems key others).map (Verdict.all verdict 0) =
      (topLevelItems key entries).map (Verdict.all verdict 0) := by
  generalize held : entries.get? key = before at spelled
  generalize held' : others.get? key = after at spelled
  -- Either the lists are the same, or their items correspond one to one.
  cases spelled with
  | same =>
    unfold topLevelItems
    rw [Extraction.given?_congr (held'.trans held.symm)]
  | items form plainForm paired =>
    rw [topLevelItems_eq_ok held form, topLevelItems_eq_ok held' plainForm]
    exact congrArg Except.ok (all_spelledOut verdict same paired 0)

/-- A document declares the same where its sources are spelled out. -/
theorem extracted_spelledOut {entries others : Entries} (spelled : SpelledOut entries others) :
    extracted others = extracted entries := by
  -- What a document declares is made of the verdicts on its two lists.
  have through (entries : Entries) : extracted entries = (do
      let typeVerdicts ←
        ((topLevelItems "types" entries).map (Verdict.all typeVerdict 0)).mapError .fault
      let types ← settled NamedType.name [] typeVerdicts
      let operationVerdicts ←
        ((topLevelItems "operations" entries).map (Verdict.all operationVerdict 0)).mapError .fault
      let operations ← settled Operation.key [] operationVerdicts
      return ⟨types.1, operations.1, types.2 ++ operations.2⟩) := by
    unfold extracted
    cases topLevelItems "types" entries <;> cases topLevelItems "operations" entries <;> rfl
  have types := verdicts_spelledOut typeVerdict (fun _ _ => typeVerdict_spelledOut) spelled.types
  have operations := verdicts_spelledOut operationVerdict
    (fun _ _ => operationVerdict_spelledOut) spelled.operations
  rw [through, through, types, operations]

/--
Loading ends in the same way, with the same schema and diagnostics or the same error, where any
sources of a document are spelled out, whatever steps the caches went through before.
-/
theorem load_spelledOut {entries others : Entries} (spelled : SpelledOut entries others)
    (steps laterSteps : List Step) :
    ((Step.load others).run (Step.cacheAfter {} laterSteps)).1 =
      ((Step.load entries).run (Step.cacheAfter {} steps)).1 := by
  have faithful (steps : List Step) : (Step.cacheAfter {} steps).Faithful :=
    Step.cacheAfter_faithful TypeCache.faithful_empty steps
  -- Each outcome is that of the document by itself, and both documents say the same.
  have same : loadFresh others = loadFresh entries := by
    rw [loadFresh_eq, loadFresh_eq]
    unfold reported
    rw [extracted_spelledOut spelled, spelled.rest "description" (by decide)]
  rw [Step.run_outcome (faithful laterSteps), Step.run_outcome (faithful steps)]
  exact congrArg Outcome.loaded same

/-- A document with sources for a field, an argument and a return type. -/
def stockDocument : Entries := [
  (.text "types", .list [.mapping [
    (.text "name", .text "Item"),
    (.text "fields", .list [.mapping [
      (.text "name", .text "count"),
      (.text "source", .text "int"),
      (.text "is_nullable", .bool true)]])]]),
  (.text "operations", .list [.mapping [
    (.text "root_type", .text "Query"),
    (.text "field_name", .text "items"),
    (.text "return_type", .text "Item"),
    (.text "source_return", .mapping [
      (.text "name", .text "list"),
      (.text "type_arguments", .list [.mapping [(.text "name", .text "Row")]]),
      (.text "is_collection", .bool true)]),
    (.text "arguments", .list [.mapping [
      (.text "name", .text "first"),
      (.text "source", .text "int")]]),
    (.text "data_source", .text "Stock")]])]

/-- The same document without sources. -/
def spelledStockDocument : Entries := [
  (.text "types", .list [.mapping [
    (.text "name", .text "Item"),
    (.text "fields", .list [.mapping [
      (.text "name", .text "count"),
      (.text "type", .text "Int"),
      (.text "is_nullable", .bool true)]])]]),
  (.text "operations", .list [.mapping [
    (.text "root_type", .text "Query"),
    (.text "field_name", .text "items"),
    (.text "return_type", .text "[Item]"),
    (.text "arguments", .list [.mapping [
      (.text "name", .text "first"),
      (.text "type", .text "Int"),
      (.text "is_nullable", .bool false)]]),
    (.text "data_source", .text "Stock")]])]

/-- Each source of the document resolves to what stands in its place. -/
theorem stock_spelledOut : SpelledOut stockDocument spelledStockDocument := by
  have int_resolves : ({ name := "int" } : Source).lookup = .ok ⟨"Int", false⟩ := by
    decide +kernel
  have rows_returned :
      ({ name := "list", arguments := [{ name := "Row" }], isCollection := true } :
        Source).returnedAlone (some "Item") = .ok "[Item]" := by
    decide +kernel
  have rows_nonempty : "[Item]" ≠ "" := by decide
  constructor
  · refine .items rfl rfl (.cons (.mapping rfl rfl ⟨.items rfl rfl (.cons ?_ .nil), ?_⟩) .nil)
    · refine .source rfl rfl rfl rfl int_resolves ⟨rfl, rfl, rfl, ?_⟩
      exact fun key outside => by grind [Entries.get?_cons]
    · exact fun key outside => by grind [Entries.get?_cons]
  · refine .items rfl rfl (.cons (.mapping rfl rfl ?_ (.items rfl rfl (.cons ?_ .nil)) ?_) .nil)
    · exact .source rfl rfl rfl rows_returned rows_nonempty rfl rfl
    · refine .source rfl rfl rfl rfl int_resolves ⟨rfl, rfl, rfl, ?_⟩
      exact fun key outside => by grind [Entries.get?_cons]
    · exact fun key outside => by grind [Entries.get?_cons]
  · unfold stockDocument spelledStockDocument
    exact fun key outside => by grind [Entries.get?_cons]

/-- The two documents load with the same outcome, after a lookup or after none. -/
theorem load_spelledOut_stock :
    ((Step.load spelledStockDocument).run (Step.cacheAfter {} [])).1 =
      ((Step.load stockDocument).run
        (Step.cacheAfter {} [.resolve { name := "int" }])).1 :=
  load_spelledOut stock_spelledOut [.resolve { name := "int" }] []

end Load

end AppSync
