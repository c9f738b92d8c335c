import AppSync.Proofs.Load.Session
import AppSync.Proofs.Result
import AppSync.Proofs.Schema

/-! A report accounts for every entry of its document: kept as the first of its key, or noted. -/

namespace AppSync

open Trailing (Alike alone)

/-- What is settled is settled by verdicts. -/
theorem Load.settled_eq_ok {α κ : Type} [DecidableEq κ] {key : α → κ} {taken : List κ}
    {verdicts : Except Accident (List (Verdict α))} {found : List α × List Diagnostic}
    (settled : settled key taken verdicts = .ok found) :
    ∃ ruled, verdicts = .ok ruled ∧ Verdict.settle key taken ruled = found := by
  cases verdicts with
  | error accident => cases settled
  | ok ruled =>
    cases settled
    exact ⟨ruled, rfl, rfl⟩

namespace Verdict

variable {α κ : Type}

/-- A decision on an entry that follows its extraction, with diagnostics at a place. -/
inductive Decided (code : DiagnosticCode) (place : String) :
    Except ExtractionEnd α → Except Accident (Verdict α) → Prop where
  | accepted {item : α} {notes : List Diagnostic} {duplicate : Diagnostic}
    (noted : (Verdict.accepted item notes duplicate).Noted code place) :
    Decided code place (.ok item) (.ok (.accepted item notes duplicate))
  | refused {fault : ExtractionFault} {warning : Diagnostic}
    (noted : (Verdict.refused warning : Verdict α).Noted code place) :
    Decided code place (.error (.fault fault)) (.ok (.refused warning))
  | stopped {accident : Accident} :
    Decided code place (.error (.accident accident)) (.error accident)

/-- Verdicts that follow an extraction, whichever index an entry has. -/
def Follows (verdict : Nat → Value → Except Accident (Verdict α)) (code : DiagnosticCode)
    (places : Nat → String) (extract : Value → Except ExtractionEnd α) : Prop :=
  ∀ index value, Decided code (places index) (extract value) (verdict index value)

variable {verdict : Nat → Value → Except Accident (Verdict α)} {start : Nat}
  {values : List Value} {verdicts : List (Verdict α)}

/-- Verdicts on values are one on the first of them and those on the others. -/
theorem all_cons_eq_ok {value : Value}
    (found : all verdict start (value :: values) = .ok verdicts) :
    ∃ first others, verdict start value = .ok first ∧
      all verdict (start + 1) values = .ok others ∧ verdicts = first :: others := by
  unfold all at found
  -- Both the first verdict and the others have to be there.
  cases decided : verdict start value with
  | error accident => simp [decided] at found
  | ok first =>
    cases remaining : all verdict (start + 1) values with
    | error accident => simp [decided, remaining, Except.map] at found
    | ok others =>
      simp only [decided, remaining, Except.map, Except.ok.injEq] at found
      exact ⟨first, others, rfl, rfl, found.symm⟩

/-- There are as many verdicts as values. -/
theorem length_all (found : all verdict start values = .ok verdicts) :
    verdicts.length = values.length := by
  induction values generalizing start verdicts with
  | nil =>
    cases found
    rfl
  | cons value rest ih =>
    obtain ⟨first, others, -, remaining, rfl⟩ := all_cons_eq_ok found
    rw [List.length_cons, List.length_cons, ih remaining]

/-- The verdict at an index is the one on the value there. -/
theorem getElem?_all (found : all verdict start values = .ok verdicts) {index : Nat}
    {decided : Verdict α} : verdicts[index]? = some decided ↔
      ∃ value, values[index]? = some value ∧ verdict (start + index) value = .ok decided := by
  -- The index counts from the start, which moves on with each value.
  induction values generalizing start verdicts index with
  | nil =>
    cases found
    simp
  | cons value rest ih =>
    obtain ⟨first, others, head, remaining, rfl⟩ := all_cons_eq_ok found
    cases index with
    | zero => simp [head]
    | succ index =>
      simp only [List.getElem?_cons_succ, ih remaining]
      rw [Nat.add_right_comm, Nat.add_assoc]

namespace Follows

variable {code : DiagnosticCode} {places : Nat → String}
  {extract : Value → Except ExtractionEnd α}

/-- What is accepted is what a value is extracted to. -/
theorem item?_eq (follows : Follows verdict code places extract) {index : Nat} {value : Value}
    {found : Verdict α} (ruled : verdict index value = .ok found) :
    found.item? = (extract value).toOption := by
  have decided := follows index value
  rw [ruled] at decided
  generalize extract value = extracted at decided
  cases decided <;> rfl

/-- The diagnostics of a verdict are at the place that its index has. -/
theorem noted (follows : Follows verdict code places extract) {index : Nat} {value : Value}
    {found : Verdict α} (ruled : verdict index value = .ok found) :
    found.Noted code (places index) := by
  have decided := follows index value
  rw [ruled] at decided
  generalize extract value = extracted at decided
  cases decided with
  | accepted noted => exact noted
  | refused noted => exact noted

/-- A verdict is found on a value exactly if its extraction is no accident. -/
theorem exists_iff (follows : Follows verdict code places extract) (index : Nat) (value : Value) :
    (∃ found, verdict index value = .ok found) ↔
      ∀ accident, extract value ≠ .error (.accident accident) := by
  -- Of the three ways to follow an extraction only the accident has no verdict.
  have decided := follows index value
  generalize extract value = extracted at decided
  generalize verdict index value = ruled at decided
  cases decided <;> simp

/-- What is accepted is what the values are extracted to. -/
theorem map_item? (follows : Follows verdict code places extract)
    (found : all verdict start values = .ok verdicts) :
    verdicts.map item? = values.map fun value => (extract value).toOption := by
  -- Item by item, each from the extraction at its own index.
  induction values generalizing start verdicts with
  | nil =>
    cases found
    rfl
  | cons value rest ih =>
    obtain ⟨first, others, head, remaining, rfl⟩ := all_cons_eq_ok found
    rw [List.map_cons, List.map_cons, follows.item?_eq head, ih remaining]

/-- The diagnostics of all verdicts are at the places that their indices have. -/
theorem noted_all (follows : Follows verdict code places extract)
    (found : all verdict 0 values = .ok verdicts) (index : Nat) (decided : Verdict α)
    (located : verdicts[index]? = some decided) : decided.Noted code (places index) := by
  obtain ⟨value, -, ruled⟩ := (getElem?_all found).mp located
  rw [Nat.zero_add] at ruled
  exact follows.noted ruled

/-- No value that a verdict is found on is an accident. -/
theorem ne_of_mem (follows : Follows verdict code places extract)
    (found : all verdict start values = .ok verdicts) {value : Value} (member : value ∈ values)
    (accident : Accident) : extract value ≠ .error (.accident accident) := by
  -- The verdict on each value is there, and rules an accident out.
  induction values generalizing start verdicts with
  | nil => cases member
  | cons first rest ih =>
    obtain ⟨decided, others, head, remaining, rfl⟩ := all_cons_eq_ok found
    rcases List.mem_cons.mp member with rfl | member
    · exact (follows.exists_iff _ _).mp ⟨_, head⟩ accident
    · exact ih remaining member

/-- Verdicts are found on values none of which is an accident. -/
theorem exists_all (follows : Follows verdict code places extract) (start : Nat)
    (harmless : ∀ value ∈ values, ∀ accident, extract value ≠ .error (.accident accident)) :
    ∃ verdicts, all verdict start values = .ok verdicts := by
  -- Each value has its verdict, since its extraction is no accident.
  induction values generalizing start with
  | nil => exact ⟨[], rfl⟩
  | cons value rest ih =>
    obtain ⟨first, head⟩ := (follows.exists_iff start value).mpr
      (harmless value List.mem_cons_self)
    obtain ⟨others, remaining⟩ := ih (start + 1) fun value member =>
      harmless value (List.mem_cons_of_mem _ member)
    refine ⟨first :: others, ?_⟩
    unfold all
    rw [head, remaining]
    rfl

/-- Where verdicts are missing one of the values is an accident. -/
theorem exists_accident (follows : Follows verdict code places extract) {accident : Accident}
    (stopped : all verdict start values = .error accident) :
    ∃ value ∈ values, extract value = .error (.accident accident) := by
  -- The first value without a verdict is the one.
  induction values generalizing start with
  | nil => cases stopped
  | cons value rest ih =>
    have decided := follows start value
    unfold all at stopped
    cases ruled : verdict start value with
    | error other =>
      rw [ruled] at decided stopped
      cases stopped
      refine ⟨value, List.mem_cons_self, ?_⟩
      generalize extract value = extracted at decided ⊢
      cases decided
      rfl
    | ok found =>
      rw [ruled] at stopped
      cases others : all verdict (start + 1) rest with
      | error other =>
        rw [others] at stopped
        cases stopped
        obtain ⟨value, member, ended⟩ := ih others
        exact ⟨value, List.mem_cons_of_mem _ member, ended⟩
      | ok verdicts =>
        rw [others] at stopped
        cases stopped

end Follows

end Verdict

/-- Items and notes that account for values: each value is kept for its key, or warned about. -/
structure Accounts {α κ : Type} [DecidableEq κ] (key : α → κ) (code : DiagnosticCode)
    (places : Nat → String) (extract : Value → Except ExtractionEnd α) (values : List Value)
    (items : List α) (notes : List Diagnostic) : Prop where
  /-- An item is kept unless an earlier one that is accepted has its key. -/
  items_eq : items = (List.range values.length).filterMap
    (keptAt key (values.map fun value => (extract value).toOption))
  /-- The notes come entry by entry. -/
  notes_eq : ∃ entryNotes : List (List Diagnostic), notes = entryNotes.flatten ∧
    entryNotes.length = values.length ∧
    ∀ index found, entryNotes[index]? = some found →
      EntryNotes code (places index)
        (keptAt key (values.map fun value => (extract value).toOption) index).isSome found

/-- Values that have no place beside earlier ones: faults and items whose keys are taken. -/
inductive Superfluous {α κ : Type} (key : α → κ) (extract : Value → Except ExtractionEnd α)
    (earlier : List Value) (value : Value) : Prop where
  | bad (fault : ExtractionFault) (refused : extract value = .error (.fault fault))
  | duplicate (item first : α) (other : Value) (accepted : extract value = .ok item)
    (member : other ∈ earlier) (taken : extract other = .ok first) (same : key first = key item)

namespace Verdict.Follows

variable {α κ : Type} [DecidableEq κ] {key : α → κ}
  {verdict : Nat → Value → Except Accident (Verdict α)} {code : DiagnosticCode}
  {places : Nat → String} {extract : Value → Except ExtractionEnd α} {values : List Value}
  {verdicts : List (Verdict α)}

/-- The items kept by verdicts are the first ones extracted with their keys. -/
theorem settle_fst (follows : Follows verdict code places extract)
    (found : all verdict 0 values = .ok verdicts) :
    (settle key [] verdicts).1 =
      (firsts key [] (values.map fun value => (extract value).toOption)).reduceOption := by
  have outcomes := map_fst_outcomes key (fun k => Iff.refl (k ∈ [])) verdicts
  rw [follows.map_item? found] at outcomes
  rw [← outcomes, List.reduceOption, List.filterMap_map]
  rfl

/-- What verdicts settle accounts for the values. -/
theorem accounts (follows : Follows verdict code places extract)
    (found : all verdict 0 values = .ok verdicts) :
    Accounts key code places extract values (settle key [] verdicts).1
      (settle key [] verdicts).2 := by
  constructor
  · rw [follows.settle_fst found, firsts_eq_map, List.length_map, List.reduceOption,
      List.filterMap_map]
    rfl
  · have kept := map_fst_outcomes key (fun k => Iff.refl (k ∈ [])) verdicts
    rw [follows.map_item? found, firsts_eq_map, List.length_map] at kept
    refine ⟨(outcomes key [] verdicts).map Prod.snd, List.flatMap_def, ?_, ?_⟩
    · simpa using congrArg List.length kept
    · -- The outcome at an index has the item that is kept there.
      intro index notes located
      rw [List.getElem?_map, Option.map_eq_some_iff] at located
      obtain ⟨outcome, located, rfl⟩ := located
      have item := congrArg (·[index]?) kept
      simp only [List.getElem?_map, located, Option.map_some] at item
      obtain ⟨position, inside, same⟩ := Option.map_eq_some_iff.mp item.symm
      obtain ⟨bound, rfl⟩ := List.getElem?_eq_some_iff.mp inside
      obtain ⟨decided, others, stands, rfl⟩ := getElem?_outcomes located
      rw [List.getElem_range] at same
      rw [same]
      exact (follows.noted_all found _ decided stands).entryNotes key others

/-- A superfluous value among others changes nothing for them. -/
theorem settle_append_cons {before after : List Value}
    (follows : Follows verdict code places extract)
    (found : all verdict 0 (before ++ after) = .ok verdicts) {value : Value}
    (superfluous : Superfluous key extract before value) :
    ∃ others, all verdict 0 (before ++ value :: after) = .ok others ∧
      (settle key [] others).1 = (settle key [] verdicts).1 := by
  -- No value is an accident: the others have verdicts, and the new one is not one.
  have harmless : ∀ other ∈ before ++ value :: after, ∀ accident,
      extract other ≠ .error (.accident accident) := by
    intro other member
    rcases List.mem_append.mp member with early | late
    · exact follows.ne_of_mem found (List.mem_append_left _ early)
    · rcases List.mem_cons.mp late with rfl | late
      · cases superfluous with
        | bad fault refused => simp [refused]
        | duplicate item first other accepted _ _ _ => simp [accepted]
      · exact follows.ne_of_mem found (List.mem_append_right _ late)
  obtain ⟨others, decided⟩ := follows.exists_all 0 harmless
  refine ⟨others, decided, ?_⟩
  rw [follows.settle_fst decided, follows.settle_fst found]
  rw [List.map_append, List.map_append, List.map_cons]
  -- The new value is accepted only where an earlier one has taken its key.
  refine firsts_append_cons (fun item accepted => ?_) _
  cases superfluous with
  | bad fault refused => simp [refused, Except.toOption] at accepted
  | duplicate same first other accepted' member taken equal =>
    obtain rfl : same = item := by simpa [accepted', Except.toOption] using accepted
    rw [List.append_nil, List.mem_map]
    refine ⟨first, ?_, equal⟩
    rw [List.reduceOption_mem_iff, List.mem_map]
    exact ⟨other, member, by rw [taken]; rfl⟩

end Verdict.Follows

namespace Load

/-- The type that a value declares by itself, at a place. -/
def typeAlone (place : String) (value : Value) : Except ExtractionEnd NamedType :=
  alone (Extraction.type place value)

/-- The operation that a value declares by itself, at a place. -/
def operationAlone (place : String) (value : Value) : Except ExtractionEnd Operation :=
  (alone (Extraction.operation place value)).map Prod.fst

/-- An operation that is not found by itself ends as its extraction does. -/
theorem alone_of_operationAlone {place : String} {value : Value} {failure : ExtractionEnd}
    (ended : operationAlone place value = .error failure) :
    alone (Extraction.operation place value) = .error failure := by
  unfold operationAlone at ended
  -- Of what is extracted, only the note beside the operation is left out.
  cases result : alone (Extraction.operation place value) with
  | error error =>
    rw [result] at ended
    cases ended
    rfl
  | ok found =>
    rw [result] at ended
    cases ended

/-- The verdicts on types follow their extraction at any place. -/
theorem typeVerdict_follows (place : String) :
    Verdict.Follows typeVerdict .typeExtraction typePlace (typeAlone place) := by
  -- Where a type stands decides neither whether it is accepted nor whether it is an accident.
  have anywhere (index : Nat) (value : Value) :
      SameResult (SameEnd False) (typeAlone (typePlace index) value) (typeAlone place value) :=
    (Extraction.type_alike False.elim value).results TypeCache.faithful_empty
      TypeCache.faithful_empty
  intro index value
  have related := anywhere index value
  unfold typeAlone at related
  unfold typeVerdict typeAlone
  generalize alone (Extraction.type (typePlace index) value) = here at related
  generalize alone (Extraction.type place value) = there at related
  cases related with
  | ok type => exact .accepted (by simp [Verdict.Noted, Extraction.duplicateType])
  | error same =>
    rename_i left right
    cases left <;> cases right <;> simp [SameEnd, ExtractionEnd.accident?] at same
    · exact .refused (by simp [Verdict.Noted, Extraction.typeFailure])
    · subst same
      exact .stopped

/-- The verdicts on operations follow their extraction at any place. -/
theorem operationVerdict_follows (place : String) :
    Verdict.Follows operationVerdict .operationExtraction operationPlace
      (operationAlone place) := by
  -- Where an operation stands decides as little as it does for a type.
  have anywhere (index : Nat) (value : Value) : SameResult (SameEnd False)
      (alone (Extraction.operation (operationPlace index) value))
      (alone (Extraction.operation place value)) :=
    (Extraction.operation_alike False.elim value).results TypeCache.faithful_empty
      TypeCache.faithful_empty
  intro index value
  have related := anywhere index value
  unfold operationVerdict operationAlone
  generalize alone (Extraction.operation (operationPlace index) value) = here at related
  generalize alone (Extraction.operation place value) = there at related
  cases related with
  | ok found =>
    -- The only note on an operation that is accepted is the one on its fallback.
    obtain ⟨operation, fallback⟩ := found
    refine .accepted ?_
    cases fallback <;>
      simp [Verdict.Noted, Extraction.duplicateOperation, Extraction.fallbackNote]
  | error same =>
    rename_i left right
    cases left <;> cases right <;> simp [SameEnd, ExtractionEnd.accident?] at same
    · exact .refused (by simp [Verdict.Noted, Extraction.operationFailure])
    · subst same
      exact .stopped

/-- A report that accounts for every type and operation, and does not depend on what it omits. -/
structure Covers (report : Report) (entries : Entries) (types operations : List Value) : Prop where
  /-- Each list is accounted for; the diagnostics on types come first. -/
  accounts : ∀ place, ∃ typeNotes operationNotes,
    report.diagnostics = typeNotes ++ operationNotes ∧
    Accounts NamedType.name .typeExtraction typePlace (typeAlone place) types
      report.schema.types typeNotes ∧
    Accounts Operation.key .operationExtraction operationPlace (operationAlone place) operations
      report.schema.operations operationNotes
  counted : report.excluded + report.schema.types.length + report.schema.operations.length =
    types.length + operations.length
  /-- A document with one superfluous type more has the same schema. -/
  type_inserted : ∀ (place : String) (history : List Step) (other : Entries)
    (before after : List Value) (value : Value), types = before ++ after →
    Superfluous NamedType.name (typeAlone place) before value →
    topLevelItems "types" other = .ok (before ++ value :: after) →
    topLevelItems "operations" other = .ok operations →
    other.get? "description" = entries.get? "description" →
    ∃ found, ((load other).run { cache := Step.cacheAfter {} history }).1 = .ok found ∧
      found.schema = report.schema
  /-- A document with one superfluous operation more has the same schema. -/
  operation_inserted : ∀ (place : String) (history : List Step) (other : Entries)
    (before after : List Value) (value : Value), operations = before ++ after →
    Superfluous Operation.key (operationAlone place) before value →
    topLevelItems "types" other = .ok types →
    topLevelItems "operations" other = .ok (before ++ value :: after) →
    other.get? "description" = entries.get? "description" →
    ∃ found, ((load other).run { cache := Step.cacheAfter {} history }).1 = .ok found ∧
      found.schema = report.schema

/-- What the report on a document is made of. -/
structure Parts (entries : Entries) (types operations : List Value)
    (typeVerdicts : List (Verdict NamedType)) (operationVerdicts : List (Verdict Operation))
    (report : Report) : Prop where
  types_eq : topLevelItems "types" entries = .ok types
  operations_eq : topLevelItems "operations" entries = .ok operations
  types_ruled : Verdict.all typeVerdict 0 types = .ok typeVerdicts
  operations_ruled : Verdict.all operationVerdict 0 operations = .ok operationVerdicts
  diagnostics_eq : report.diagnostics = (Verdict.settle NamedType.name [] typeVerdicts).2 ++
    (Verdict.settle Operation.key [] operationVerdicts).2
  assembled : assemble ⟨(Verdict.settle NamedType.name [] typeVerdicts).1,
    (Verdict.settle Operation.key [] operationVerdicts).1, report.diagnostics⟩
      (entries.get? "description") = .ok report.schema

/-- A report has parts. -/
theorem exists_parts {entries : Entries} {report : Report}
    (found : reported entries = .ok report) :
    ∃ types operations typeVerdicts operationVerdicts,
      Parts entries types operations typeVerdicts operationVerdicts report := by
  -- Every stage has to end with a value.
  obtain ⟨extracted, stages, found⟩ := Except.ok_of_bind found
  obtain ⟨types, types_eq, stages⟩ := Except.ok_of_bind stages
  obtain ⟨keptTypes, typesSettled, stages⟩ := Except.ok_of_bind stages
  obtain ⟨operations, operations_eq, stages⟩ := Except.ok_of_bind stages
  obtain ⟨keptOperations, operationsSettled, stages⟩ := Except.ok_of_bind stages
  cases stages
  obtain ⟨typeVerdicts, types_ruled, rfl⟩ := settled_eq_ok typesSettled
  obtain ⟨operationVerdicts, operations_ruled, rfl⟩ := settled_eq_ok operationsSettled
  refine ⟨types, operations, typeVerdicts, operationVerdicts, ?_⟩
  split at found
  · rename_i schema assembled
    cases found
    exact ⟨Except.ok_of_mapError types_eq, Except.ok_of_mapError operations_eq, types_ruled,
      operations_ruled, rfl, assembled⟩
  · cases found

/-- Parts of a document make its report. -/
theorem Parts.reported {entries : Entries} {types operations : List Value}
    {typeVerdicts : List (Verdict NamedType)} {operationVerdicts : List (Verdict Operation)}
    {report : Report}
    (parts : Parts entries types operations typeVerdicts operationVerdicts report) :
    reported entries = .ok report := by
  -- The stages are run with the values that the parts give.
  have assembled := parts.assembled
  rw [parts.diagnostics_eq] at assembled
  simp only [Load.reported, extracted, settled, parts.types_eq, parts.operations_eq,
    parts.types_ruled, parts.operations_ruled, Except.mapError, Except.map, bind, Except.bind,
    pure, Except.pure, assembled]
  rw [← parts.diagnostics_eq]

/-- A schema that is put together has the types and operations that were extracted. -/
theorem assemble_eq_ok {found : Extracted} {description : Option Value} {schema : Schema}
    (assembled : assemble found description = .ok schema) :
    schema.types = found.types ∧ schema.operations = found.operations := by
  unfold assemble at assembled
  -- Behind the description, the schema is made of what was found.
  split at assembled
  · cases assembled
  · split at assembled
    · rename_i made
      cases assembled
      exact Schema.parts_of_make made
    · cases assembled

namespace Parts

variable {entries : Entries} {types operations : List Value}
  {typeVerdicts : List (Verdict NamedType)} {operationVerdicts : List (Verdict Operation)}
  {report : Report}

/-- Each entry is kept or warned about, once. -/
theorem counted (parts : Parts entries types operations typeVerdicts operationVerdicts report) :
    report.excluded + report.schema.types.length + report.schema.operations.length =
      types.length + operations.length := by
  have kept := assemble_eq_ok parts.assembled
  -- Warnings and kept items are counted list by list.
  have onTypes := Verdict.warnings_add_kept NamedType.name []
    ((typeVerdict_follows "").noted_all parts.types_ruled)
  have onOperations := Verdict.warnings_add_kept Operation.key []
    ((operationVerdict_follows "").noted_all parts.operations_ruled)
  rw [Verdict.length_all parts.types_ruled] at onTypes
  rw [Verdict.length_all parts.operations_ruled] at onOperations
  unfold Report.excluded
  rw [kept.1, kept.2, parts.diagnostics_eq, List.filter_append, List.length_append]
  dsimp only
  omega

/-- Verdicts that keep the same items make a report with the same schema. -/
theorem exists_same (parts : Parts entries types operations typeVerdicts operationVerdicts report)
    {other : Entries} {types' operations' : List Value} {typeVerdicts' : List (Verdict NamedType)}
    {operationVerdicts' : List (Verdict Operation)} (history : List Step)
    (types_eq : topLevelItems "types" other = .ok types')
    (operations_eq : topLevelItems "operations" other = .ok operations')
    (description : other.get? "description" = entries.get? "description")
    (types_ruled : Verdict.all typeVerdict 0 types' = .ok typeVerdicts')
    (operations_ruled : Verdict.all operationVerdict 0 operations' = .ok operationVerdicts')
    (sameTypes : (Verdict.settle NamedType.name [] typeVerdicts').1 =
      (Verdict.settle NamedType.name [] typeVerdicts).1)
    (sameOperations : (Verdict.settle Operation.key [] operationVerdicts').1 =
      (Verdict.settle Operation.key [] operationVerdicts).1) :
    ∃ found, ((load other).run { cache := Step.cacheAfter {} history }).1 = .ok found ∧
      found.schema = report.schema := by
  -- The schema is put together from the same items and the same description.
  have assembled := parts.assembled
  rw [← description, ← sameTypes, ← sameOperations] at assembled
  let found : Report := ⟨report.schema, (Verdict.settle NamedType.name [] typeVerdicts').2 ++
    (Verdict.settle Operation.key [] operationVerdicts').2⟩
  have remade : Parts other types' operations' typeVerdicts' operationVerdicts' found :=
    ⟨types_eq, operations_eq, types_ruled, operations_ruled, rfl, assembled⟩
  have faithful := Step.cacheAfter_faithful TypeCache.faithful_empty history
  exact ⟨found, ((load_gives other).answer faithful).trans remade.reported, rfl⟩

/-- A report with parts covers its document. -/
theorem covers (parts : Parts entries types operations typeVerdicts operationVerdicts report) :
    Covers report entries types operations := by
  have kept := assemble_eq_ok parts.assembled
  -- Accounting and counting are of the parts; an insertion leaves what is settled.
  constructor
  · intro place
    refine ⟨_, _, parts.diagnostics_eq, ?_, ?_⟩
    · rw [kept.1]
      exact (typeVerdict_follows place).accounts parts.types_ruled
    · rw [kept.2]
      exact (operationVerdict_follows place).accounts parts.operations_ruled
  · exact parts.counted
  · intro place history other before after value split superfluous types_eq operations_eq same
    subst split
    obtain ⟨others, ruled, settled⟩ :=
      (typeVerdict_follows place).settle_append_cons parts.types_ruled superfluous
    exact parts.exists_same history types_eq operations_eq same ruled parts.operations_ruled
      settled rfl
  · intro place history other before after value split superfluous types_eq operations_eq same
    subst split
    obtain ⟨others, ruled, settled⟩ :=
      (operationVerdict_follows place).settle_append_cons parts.operations_ruled superfluous
    exact parts.exists_same history types_eq operations_eq same parts.types_ruled ruled
      rfl settled

end Parts

/--
Whatever steps went through the cache before, the report on a document covers it: each entry is kept
as the first of its key or warned about once, and no entry that is left out changes the schema.
-/
theorem load_covers {history : List Step} {entries : Entries} {report : Report}
    (loaded : ((load entries).run { cache := Step.cacheAfter {} history }).1 = .ok report) :
    ∃ types operations, topLevelItems "types" entries = .ok types ∧
      topLevelItems "operations" entries = .ok operations ∧
      Covers report entries types operations := by
  -- Whatever came before, the cache is faithful and the report is the one alone.
  have faithful := Step.cacheAfter_faithful TypeCache.faithful_empty history
  obtain ⟨types, operations, _, _, parts⟩ :=
    exists_parts (((load_gives entries).answer faithful).symm.trans loaded)
  exact ⟨types, operations, parts.types_eq, parts.operations_eq, parts.covers⟩

/-- A document whose second type is no mapping and whose third one is a duplicate. -/
def crowdedDocument : Entries :=
  let text (key value : String) : Scalar × Value := (.text key, .scalar (.text value))
  [(.text "types", .list [
      .mapping [text "name" "Money", text "kind" "OBJECT"],
      .scalar (.int 7),
      .mapping [text "name" "Money", text "kind" "ENUM"]]),
    (.text "operations", .list [
      .mapping [text "root_type" "Query", text "field_name" "ping", text "data_source" "Ping"]])]

/-- A report on a document with two entries too many, loaded twice through one cache. -/
theorem crowdedDocument_covers : ∃ report,
    ((load crowdedDocument).run { cache := Step.cacheAfter {} [.load crowdedDocument] }).1 =
      .ok report ∧
    report.excluded = 2 ∧
    ∃ types operations, topLevelItems "types" crowdedDocument = .ok types ∧
      topLevelItems "operations" crowdedDocument = .ok operations ∧
      Covers report crowdedDocument types operations := by
  -- The report is computed once, for its count alone.
  have counted : (((load crowdedDocument).run
      { cache := Step.cacheAfter {} [.load crowdedDocument] }).1.map Report.excluded).toOption =
        some 2 := by
    decide +kernel
  cases loaded : ((load crowdedDocument).run
      { cache := Step.cacheAfter {} [.load crowdedDocument] }).1 with
  | error trouble =>
    rw [loaded] at counted
    cases counted
  | ok report =>
    rw [loaded] at counted
    exact ⟨report, rfl, Option.some.inj counted, load_covers loaded⟩

end Load

end AppSync
