import AppSync.Proofs.Load.Totality
import AppSync.Proofs.Text.Decimal

/-!
Notes on fallbacks: which entries of a document get one. The return type of an operation that is
kept is the fallback where there is a note on it. An operation that is left out because it repeats
one that is kept leaves its note behind.
-/

namespace AppSync

open Trailing (alone)

namespace Extraction

/-- Entries that state no return type: no text other than the empty one, and no source. -/
structure StatesNoReturn (entries : Entries) : Prop where
  source : given? "source_return" entries = none
  declared : given? "return_type" entries = none ∨ given? "return_type" entries = some (.text "")

/-- An operation declaration that states no return type. -/
def LacksReturn (value : Value) : Prop :=
  ∃ entries, value.unfolded = .mapping entries ∧ StatesNoReturn entries

/-- The declared return type is the one that is given. -/
theorem declaredReturn_given (entries : Entries) :
    Yields False (fun declared => given? "return_type" entries = declared.map Value.text)
      (declaredReturn entries) := by
  unfold declaredReturn
  split
  · rename_i absent
    exact .ok absent
  · rename_i name given
    exact .ok given
  · exact .refuse _

/-- Entries without a source state a return type exactly if they declare one that counts. -/
theorem statesNoReturn_iff {entries : Entries} {declared : Option String}
    (given : given? "return_type" entries = declared.map Value.text) :
    StatesNoReturn entries ↔ given? "source_return" entries = none ∧
      (Source.declaration? declared).isSome = false := by
  have counts : (given? "return_type" entries = none ∨
      given? "return_type" entries = some (.text "")) ↔
      (Source.declaration? declared).isSome = false := by
    rw [given]
    cases declared <;> simp [Source.declaration?, Value.text, Option.filter]
  exact ⟨fun states => ⟨states.source, counts.mp states.declared⟩,
    fun ⟨source, uncounted⟩ => ⟨source, counts.mpr uncounted⟩⟩

/-- The flag marks the entries that state no return type, which get the fallback. -/
theorem resolveReturn_marks (place : String) (entries : Entries) :
    Yields False (fun found => (found.2 = true ↔ StatesNoReturn entries) ∧
      (found.2 = true →
        Entries.get? "return_type" found.1 = some (.text fallbackReturnType)))
      (resolveReturn place entries) := by
  unfold resolveReturn
  refine (declaredReturn_given entries).bind fun declared given => ?_
  rw [statesNoReturn_iff given]
  dsimp only
  -- The fallback comes in only behind both other branches: no source, and no text.
  split
  · rename_i raw sourced
    refine (parseSource_yields _ _).bind fun source _ => ?_
    refine (returnedBy_yields _ source declared).bind fun text _ => .ok ?_
    simp [sourced]
  · rename_i absent
    split
    · rename_i counts
      exact .ok (by simp [counts])
    · rename_i empty
      have shown : Yields False (fun _ => True) (checkShown entries) :=
        ⟨fun _ _ _ => trivial, False.elim⟩
      refine shown.bind fun _ _ => .ok ?_
      simp [absent, empty, Entries.get?_set]

/-- An operation comes with its field exactly if it states no return type, and gets the fallback. -/
theorem operation_marks (place : String) (value : Value) :
    Yields False (fun found => (found.2.isSome ↔ LacksReturn value) ∧
      (found.2.isSome → found.1.returnType = fallbackReturnType)) (operation place value) := by
  unfold operation
  split
  · rename_i entries form
    have lacks : LacksReturn value ↔ StatesNoReturn entries := by
      simp [LacksReturn, form]
    rw [lacks]
    refine (resolveReturn_marks place entries).bind fun found marked => ?_
    obtain ⟨typed, isFallback⟩ := found
    dsimp only at marked ⊢
    have arguments : Yields False (fun resolved => typed.SameBeyond ["arguments"] resolved ∧
        (False → (Value.mapping resolved).At "arguments"
          (Value.Each fun member => member.At "directives" fun _ => True)))
        (resolveAt "arguments" place false typed) :=
      resolveAt_yields (by decide) False.elim place false
    refine arguments.bind fun resolved others => ?_
    have read : Reading.Yields False (fun operation =>
        (Value.mapping resolved).Spells "return_type" operation.returnType)
        (Operation.read (.mapping resolved)) :=
      ⟨fun operation => Operation.spells_returnType, False.elim⟩
    refine (Yields.ofReading read).bind fun operation spelled => .ok ?_
    cases isFallback with
    | false => simpa using marked.1
    | true =>
      refine ⟨by simpa using marked.1, fun _ => ?_⟩
      -- The fallback is what the arguments leave at the key, and what is read there.
      obtain ⟨_, stated, ⟨⟩, held, found⟩ := spelled
      rw [others.1 "return_type" (by decide), marked.2 rfl] at held
      cases held
      exact (Except.ok.inj found).symm
  · exact .refuse _

end Extraction

namespace Load

open Extraction (LacksReturn fallbackReturnType)

/-- Operations have places of their own. -/
theorem operationPlace_injective : Function.Injective operationPlace := by
  intro index other same
  have digits : index.repr.toList = other.repr.toList :=
    congrArg String.toList (by simpa [operationPlace] using same)
  rw [Nat.toList_repr, Nat.toList_repr] at digits
  rw [← Text.decimalNumber_toDigits index, digits, Text.decimalNumber_toDigits]

/-- The verdict on a type has no notes beside the type. -/
theorem notes_typeVerdict {index : Nat} {value : Value} {verdict : Verdict NamedType}
    (ruled : typeVerdict index value = .ok verdict) : verdict.notes = [] := by
  unfold typeVerdict at ruled
  split at ruled <;> cases ruled <;> rfl

/-- The verdict on an operation has notes exactly if it is accepted and states no return type. -/
theorem notes_operationVerdict {index : Nat} {value : Value} {verdict : Verdict Operation}
    (ruled : operationVerdict index value = .ok verdict) :
    (verdict.notes ≠ [] ↔ LacksReturn value ∧ verdict.item?.isSome) ∧
      ∀ operation ∈ verdict.item?, verdict.notes ≠ [] →
        operation.returnType = fallbackReturnType := by
  unfold operationVerdict at ruled
  cases ended : alone (Extraction.operation (operationPlace index) value) with
  | error failure =>
    rw [ended] at ruled
    cases failure with
    | accident accident => cases ruled
    | fault fault =>
      cases ruled
      simp [Verdict.notes, Verdict.item?]
  | ok found =>
    obtain ⟨lacks, typed⟩ := (Extraction.operation_marks _ value).found {} found ended
    rw [ended] at ruled
    cases ruled
    -- There is one note with a field, and none without.
    cases marked : found.2 with
    | none => simpa [Verdict.notes, Verdict.item?, marked] using lacks
    | some field =>
      rw [marked] at lacks typed
      simpa [Verdict.notes, Verdict.item?] using ⟨lacks.mp rfl, typed rfl⟩

/-- The operations that values declare, each by itself; a value at fault declares none. -/
def operationsAlone (place : String) (values : List Value) : List (Option Operation) :=
  values.map fun value => (operationAlone place value).toOption

/-- A report has a note on a fallback at the place of an operation. -/
def NotesFallback (report : Report) (index : Nat) : Prop :=
  ∃ note ∈ report.diagnostics, note.code = .returnTypeFallback ∧
    note.location = some (operationPlace index)

instance (report : Report) (index : Nat) : Decidable (NotesFallback report index) :=
  inferInstanceAs (Decidable (∃ note ∈ report.diagnostics, note.code = .returnTypeFallback ∧
    note.location = some (operationPlace index)))

/-- A report that tells which entries got the fallback, of entries that declare operations. -/
structure TellsFallbacks (report : Report) (values : List Value)
    (declared : List (Option Operation)) : Prop where
  kept : report.schema.operations =
    (List.range values.length).filterMap (keptAt Operation.key declared)
  /-- Every note on a fallback is at the place of an operation. -/
  placed : ∀ note ∈ report.diagnostics, note.code = .returnTypeFallback →
    ∃ index, note.location = some (operationPlace index)
  /-- A note stands where an operation that is kept states no return type, or one that repeats it. -/
  noted : ∀ index, NotesFallback report index ↔ ∃ value operation,
    values[index]? = some value ∧ LacksReturn value ∧
      (keptAt Operation.key declared index = some operation ∨
        RepeatsAt Operation.key declared index operation)
  /-- The return type of an operation that is kept with a note on it is the fallback. -/
  typed : ∀ index operation, NotesFallback report index →
    keptAt Operation.key declared index = some operation →
    operation.returnType = fallbackReturnType

namespace Parts

variable {entries : Entries} {types operations : List Value}
  {typeVerdicts : List (Verdict NamedType)} {operationVerdicts : List (Verdict Operation)}
  {report : Report}

/-- The notes on fallbacks in a report are those of the verdicts on its operations. -/
theorem filter_diagnostics
    (parts : Parts entries types operations typeVerdicts operationVerdicts report) :
    report.diagnostics.filter (fun note => note.code = .returnTypeFallback) =
      operationVerdicts.flatMap Verdict.notes := by
  have onTypes := Verdict.filter_settle NamedType.name [] (by decide)
    ((typeVerdict_follows "").noted_all parts.types_ruled)
  have onOperations := Verdict.filter_settle Operation.key [] (by decide)
    ((operationVerdict_follows "").noted_all parts.operations_ruled)
  -- Verdicts on types have no notes.
  have silent : typeVerdicts.flatMap Verdict.notes = [] := by
    refine List.flatMap_eq_nil_iff.mpr fun verdict member => ?_
    obtain ⟨index, located⟩ := List.mem_iff_getElem?.mp member
    obtain ⟨value, -, ruled⟩ := (Verdict.getElem?_all parts.types_ruled).mp located
    exact notes_typeVerdict ruled
  rw [parts.diagnostics_eq, List.filter_append, onTypes, onOperations, silent, List.nil_append]

/-- The notes of a verdict are at the place of its operation. -/
theorem location_of_mem_notes
    (parts : Parts entries types operations typeVerdicts operationVerdicts report) {index : Nat}
    {verdict : Verdict Operation} (stands : operationVerdicts[index]? = some verdict)
    {note : Diagnostic} (own : note ∈ verdict.notes) :
    note.location = some (operationPlace index) :=
  ((operationVerdict_follows "").noted_all parts.operations_ruled index verdict
    stands).location_of_mem_notes own

/-- A note on a fallback is one of a verdict on an operation. -/
theorem note_iff
    (parts : Parts entries types operations typeVerdicts operationVerdicts report)
    (note : Diagnostic) :
    note ∈ report.diagnostics ∧ note.code = .returnTypeFallback ↔
      ∃ (index : Nat) (verdict : Verdict Operation),
        operationVerdicts[index]? = some verdict ∧ note ∈ verdict.notes := by
  have among : note ∈ report.diagnostics ∧ note.code = .returnTypeFallback ↔
      ∃ verdict ∈ operationVerdicts, note ∈ verdict.notes := by
    rw [← List.mem_flatMap, ← parts.filter_diagnostics, List.mem_filter, decide_eq_true_iff]
  rw [among]
  -- A verdict is in the list at the index of its operation.
  constructor
  · rintro ⟨verdict, member, own⟩
    obtain ⟨index, stands⟩ := List.mem_iff_getElem?.mp member
    exact ⟨index, verdict, stands, own⟩
  · rintro ⟨index, verdict, stands, own⟩
    exact ⟨verdict, List.mem_of_getElem? stands, own⟩

/-- A note on a fallback stands at the place of an operation exactly if its verdict has notes. -/
theorem notesFallback_iff
    (parts : Parts entries types operations typeVerdicts operationVerdicts report) (index : Nat) :
    NotesFallback report index ↔
      ∃ verdict, operationVerdicts[index]? = some verdict ∧ verdict.notes ≠ [] := by
  constructor
  · rintro ⟨note, member, code, location⟩
    obtain ⟨other, verdict, stands, own⟩ := (parts.note_iff note).mp ⟨member, code⟩
    -- No two operations share a place, so that the note tells which verdict it comes from.
    rw [parts.location_of_mem_notes stands own, Option.some.injEq] at location
    obtain rfl := operationPlace_injective location
    exact ⟨verdict, stands, List.ne_nil_of_mem own⟩
  · rintro ⟨verdict, stands, some_notes⟩
    obtain ⟨note, own⟩ := List.exists_mem_of_ne_nil _ some_notes
    obtain ⟨member, code⟩ := (parts.note_iff note).mpr ⟨index, verdict, stands, own⟩
    exact ⟨note, member, code, parts.location_of_mem_notes stands own⟩

/-- What the operations come to alone is what their verdicts accept. -/
theorem operationsAlone_eq
    (parts : Parts entries types operations typeVerdicts operationVerdicts report)
    (place : String) : operationsAlone place operations = operationVerdicts.map Verdict.item? :=
  ((operationVerdict_follows place).map_item? parts.operations_ruled).symm

/-- An operation is accepted alone exactly as its verdict accepts it. -/
theorem join_operationsAlone
    (parts : Parts entries types operations typeVerdicts operationVerdicts report)
    (place : String) {index : Nat} {verdict : Verdict Operation}
    (stands : operationVerdicts[index]? = some verdict) :
    (operationsAlone place operations)[index]?.join = verdict.item? := by
  rw [parts.operationsAlone_eq place, List.getElem?_map, stands]
  rfl

/-- Each verdict is on the operation at its index. -/
theorem exists_ruled
    (parts : Parts entries types operations typeVerdicts operationVerdicts report) {index : Nat}
    {verdict : Verdict Operation} (stands : operationVerdicts[index]? = some verdict) :
    ∃ value, operations[index]? = some value ∧ operationVerdict index value = .ok verdict := by
  simpa using (Verdict.getElem?_all parts.operations_ruled).mp stands

/-- The verdicts with notes are those on accepted operations that state no return type. -/
theorem exists_notes_iff
    (parts : Parts entries types operations typeVerdicts operationVerdicts report)
    (place : String) (index : Nat) :
    (∃ verdict, operationVerdicts[index]? = some verdict ∧ verdict.notes ≠ []) ↔
      ∃ value operation, operations[index]? = some value ∧ Extraction.LacksReturn value ∧
        (operationsAlone place operations)[index]?.join = some operation := by
  constructor
  · rintro ⟨verdict, stands, some_notes⟩
    obtain ⟨value, located, decided⟩ := parts.exists_ruled stands
    obtain ⟨lacks, some_item⟩ := (notes_operationVerdict decided).1.mp some_notes
    obtain ⟨operation, item⟩ := Option.isSome_iff_exists.mp some_item
    exact ⟨value, operation, located, lacks, (parts.join_operationsAlone place stands).trans item⟩
  · rintro ⟨value, operation, located, lacks, item⟩
    -- There is a verdict on each operation.
    cases stands : operationVerdicts[index]? with
    | none =>
      rw [parts.operationsAlone_eq place, List.getElem?_map, stands] at item
      cases item
    | some verdict =>
      obtain ⟨other, also, decided⟩ := parts.exists_ruled stands
      obtain rfl := Option.some.inj (located.symm.trans also)
      have some_item : verdict.item?.isSome := by
        rw [← parts.join_operationsAlone place stands, item]
        rfl
      exact ⟨verdict, rfl, (notes_operationVerdict decided).1.mpr ⟨lacks, some_item⟩⟩

/-- A report with parts tells which of its operations got the fallback. -/
theorem tellsFallbacks
    (parts : Parts entries types operations typeVerdicts operationVerdicts report)
    (place : String) : TellsFallbacks report operations (operationsAlone place operations) := by
  obtain ⟨_, _, _, _, onOperations⟩ := parts.covers.accounts place
  refine ⟨onOperations.items_eq, fun note member code => ?placed, fun index => ?noted,
    fun index operation noted kept => ?typed⟩
  case placed =>
    obtain ⟨index, verdict, stands, own⟩ := (parts.note_iff note).mp ⟨member, code⟩
    exact ⟨index, parts.location_of_mem_notes stands own⟩
  case noted =>
    -- An operation that is accepted is kept or repeats one that is.
    rw [parts.notesFallback_iff, parts.exists_notes_iff place]
    simp only [← accepted_iff]
  case typed =>
    obtain ⟨verdict, stands, some_notes⟩ := (parts.notesFallback_iff index).mp noted
    obtain ⟨value, -, decided⟩ := parts.exists_ruled stands
    have item := (parts.join_operationsAlone place stands).symm.trans (accepted_iff.mpr (.inl kept))
    exact (notes_operationVerdict decided).2 operation item some_notes

end Parts

/--
Whatever steps went through the cache before, the report on a document tells which operations got
the fallback: there is a note on each that is kept and states no return type, with the fallback for
its return type, and on each that repeats a kept one and states none. There are no other notes.
-/
theorem load_tellsFallbacks {history : List Step} {entries : Entries} {report : Report}
    (loaded : ((load entries).run { cache := Step.cacheAfter {} history }).1 = .ok report) :
    ∃ operations, topLevelItems "operations" entries = .ok operations ∧
      ∀ place, TellsFallbacks report operations (operationsAlone place operations) := by
  have faithful := Step.cacheAfter_faithful TypeCache.faithful_empty history
  obtain ⟨types, operations, _, _, parts⟩ :=
    exists_parts (((load_gives entries).answer faithful).symm.trans loaded)
  exact ⟨operations, parts.operations_eq, parts.tellsFallbacks⟩

/-- Operations of which the second repeats the first, and only the first states a return type. -/
def repeatedOperations : List Value :=
  let text (key value : String) : Scalar × Value := (.text key, .scalar (.text value))
  [.mapping [text "root_type" "Query", text "field_name" "ping", text "data_source" "Ping",
      text "return_type" "Int"],
    .mapping [text "root_type" "Query", text "field_name" "ping", text "data_source" "Ping"],
    .mapping [text "root_type" "Query", text "field_name" "greet", text "data_source" "Greet"]]

/-- A document with such operations. -/
def repeatedDocument : Entries :=
  [(.text "operations", .list repeatedOperations)]

/-- The report on the document, loaded twice through one cache, has notes on the last two. -/
theorem repeatedDocument_tellsFallbacks : ∃ report,
    ((load repeatedDocument).run { cache := Step.cacheAfter {} [.load repeatedDocument] }).1 =
      .ok report ∧
    (List.range 4).filter (fun index => NotesFallback report index) = [1, 2] ∧
    ∃ operations, topLevelItems "operations" repeatedDocument = .ok operations ∧
      ∀ place, TellsFallbacks report operations (operationsAlone place operations) := by
  -- The report is computed once, for the places of its notes alone.
  have noted : ((load repeatedDocument).run
      { cache := Step.cacheAfter {} [.load repeatedDocument] }).1.toOption.map (fun report =>
        (List.range 4).filter fun index => NotesFallback report index) = some [1, 2] := by
    decide +kernel
  obtain ⟨report, loaded, places⟩ := Except.ok_of_toOption_map noted
  exact ⟨report, loaded, places, load_tellsFallbacks loaded⟩

/-- There is a note on the second operation, which is left out, where the first returns a number. -/
theorem repeatedDocument_noted : ∃ report, loadFresh repeatedDocument = .ok report ∧
    NotesFallback report 1 ∧
    (keptAt Operation.key (operationsAlone (operationPlace 1) repeatedOperations) 1).isNone ∧
    report.schema.operations.map (fun operation => (operation.fieldName, operation.returnType)) =
      [("ping", "Int"), ("greet", "String")] := by
  have kept : (keptAt Operation.key
      (operationsAlone (operationPlace 1) repeatedOperations) 1).isNone := by
    decide +kernel
  have told : (loadFresh repeatedDocument).toOption.map (fun report =>
      (decide (NotesFallback report 1), report.schema.operations.map fun operation =>
        (operation.fieldName, operation.returnType))) =
      some (true, [("ping", "Int"), ("greet", "String")]) := by
    decide +kernel
  obtain ⟨report, loaded, told⟩ := Except.ok_of_toOption_map told
  obtain ⟨noted, operations⟩ := Prod.mk.inj told
  exact ⟨report, loaded, of_decide_eq_true noted, kept, operations⟩

end Load

end AppSync
