import AppSync.Generation.Basic
import AppSync.Proofs.Manifest
import AppSync.Proofs.Result

/-!
Two settings are guards: strict data sources and the check of the schema document decide whether a
run has a result, and never which. A strict run fails exactly where a lenient one warns, with the
first of the warnings.
-/

namespace AppSync

namespace Manifest

/--
An operation either takes strict and lenient collections to the same sources, or is in conflict with
those collected: a strict collection ends there, and a lenient one goes on with the conflict.
-/
theorem collectFrom_cons_cases (sources : List DataSource) (operation : Operation) :
    (∃ sources', ∀ strict conflicts rest,
      collectFrom strict sources conflicts (operation :: rest) =
        collectFrom strict sources' conflicts rest) ∨
    ∃ conflict, ∀ conflicts rest,
      collectFrom true sources conflicts (operation :: rest) = .error conflict ∧
      collectFrom false sources conflicts (operation :: rest) =
        collectFrom false sources (conflicts ++ [conflict]) rest := by
  cases resolver : operation.resolver with
  | pipeline functions some blank =>
    -- A pipeline has no data source.
    refine .inl ⟨sources, fun strict conflicts rest => ?_⟩
    simp only [collectFrom, resolver]
  | unit name named =>
    cases found : sources.find? fun source => source.name = name with
    | none =>
      refine .inl ⟨sources ++ [⟨name, operation.backing⟩], fun strict conflicts rest => ?_⟩
      simp only [collectFrom, resolver, found]
    | some source =>
      by_cases agrees : source.backing = operation.backing
      · refine .inl ⟨sources, fun strict conflicts rest => ?_⟩
        simp only [collectFrom, resolver, found, if_pos agrees]
      -- Only where two functions differ do the collections part.
      · refine .inr ⟨⟨name, source.backing, operation.qualifiedName, operation.backing⟩,
          fun conflicts rest => ⟨?_, ?_⟩⟩
        · simp only [collectFrom, resolver, found, if_neg agrees, if_true]
        · simp only [collectFrom, resolver, found, if_neg agrees, Bool.false_eq_true, if_false]

/-- A lenient collection keeps the conflicts that it starts with in front of those that it finds. -/
theorem collectFrom_keeps (sources : List DataSource) (conflicts : List Conflict)
    (operations : List Operation) :
    ∃ collected others,
      collectFrom false sources conflicts operations = .ok (collected, conflicts ++ others) := by
  -- What is found joins the end, so that the beginning stays.
  induction operations generalizing sources conflicts with
  | nil => exact ⟨sources, [], by rw [collectFrom, List.append_nil]⟩
  | cons operation rest ih =>
    rcases collectFrom_cons_cases sources operation with ⟨sources', same⟩ | ⟨conflict, parted⟩
    · rw [same]
      exact ih sources' conflicts
    · obtain ⟨collected, others, run⟩ := ih sources (conflicts ++ [conflict])
      refine ⟨collected, conflict :: others, ?_⟩
      rw [(parted conflicts rest).2, run, List.append_assoc, List.singleton_append]

/-- What a strict collection makes of sources and conflicts: the first conflict is its error. -/
def strictly (sources : List DataSource) (conflicts : List Conflict) :
    Except Conflict (List DataSource × List Conflict) :=
  match conflicts with
  | [] => .ok (sources, [])
  | first :: _ => .error first

/-- A strict collection ends with the first conflict that a lenient one finds, if it finds any. -/
theorem collectFrom_strict (sources : List DataSource) (operations : List Operation) :
    ∃ collected conflicts, collectFrom false sources [] operations = .ok (collected, conflicts) ∧
      collectFrom true sources [] operations = strictly collected conflicts := by
  -- As long as there is no conflict, both collections have the same sources.
  induction operations generalizing sources with
  | nil => exact ⟨sources, [], rfl, rfl⟩
  | cons operation rest ih =>
    rcases collectFrom_cons_cases sources operation with ⟨sources', same⟩ | ⟨conflict, parted⟩
    · rw [same, same]
      exact ih sources'
    · obtain ⟨strict, lenient⟩ := parted [] rest
      -- The conflict stays the first of those that the lenient collection goes on to find.
      obtain ⟨collected, others, run⟩ := collectFrom_keeps sources ([] ++ [conflict]) rest
      exact ⟨collected, conflict :: others, lenient.trans run, strict⟩

/-- What a lenient collection finds tells what a strict one ends with. -/
theorem collect_strict {operations : List Operation} {sources : List DataSource}
    {conflicts : List Conflict} (lenient : collect false operations = .ok (sources, conflicts)) :
    collect true operations = strictly sources conflicts := by
  obtain ⟨_, _, run, strict⟩ := collectFrom_strict [] operations
  -- The two lenient runs are one.
  have same := run.symm.trans lenient
  cases same
  exact strict

/-- A qualified name is never empty. -/
theorem qualifiedName_ne_empty (operation : Operation) : operation.qualifiedName ≠ "" := by
  intro empty
  -- The name of the root type alone is longer than nothing.
  have letters := congrArg (List.length ∘ String.toList) empty
  cases root : operation.root <;>
    simp [Operation.qualifiedName, root, Root.name] at letters

/-- The fault of a conflict says what its warning says, at the same place. -/
theorem fault_conflictOf? {operations : List Operation} {operation : Operation}
    {conflict : Conflict} (found : conflictOf? operations operation = some conflict) :
    conflict.fault = ⟨.generation, conflict.diagnostic.message,
      some { location := conflict.diagnostic.location }⟩ := by
  obtain ⟨-, -, located⟩ := diagnostic_conflictOf? found
  have place : conflict.operation = operation.qualifiedName := Option.some.inj located
  -- The place of a fault is dropped only where it is empty.
  have kept : (some conflict.operation).filter (· ≠ "") = some conflict.operation := by
    rw [place, Option.filter_some, if_pos (by simp [qualifiedName_ne_empty])]
  unfold Conflict.fault Fault.generation
  rw [kept]
  rfl

/-- What strict and lenient collections of the same operations have to do with each other. -/
structure StrictAgrees (operations : List Operation) (sources : List DataSource)
    (warnings : List Diagnostic) : Prop where
  /-- A lenient collection has these sources and warnings. -/
  lenient : ∃ conflicts, collect false operations = .ok (sources, conflicts) ∧
    warnings = conflicts.map Conflict.diagnostic
  /-- A strict one fails exactly if there is a warning. -/
  fails_iff : (∃ conflict, collect true operations = .error conflict) ↔ warnings ≠ []
  /-- It fails with a fault of generation that says what the first warning says, at its place. -/
  first : ∀ conflict, collect true operations = .error conflict →
    ∃ warning, warnings.head? = some warning ∧ warning.location.isSome ∧
      conflict.fault = ⟨.generation, warning.message, some { location := warning.location }⟩
  /-- Otherwise it has the same sources. -/
  same : warnings = [] → collect true operations = .ok (sources, [])

/-- A strict collection fails as soon as a lenient one warns, and has the same sources otherwise. -/
theorem exists_strictAgrees (operations : List Operation) :
    ∃ sources warnings, StrictAgrees operations sources warnings := by
  obtain ⟨sources, conflicts, collected, lenient⟩ := collect_collected operations
  have strict := collect_strict lenient
  refine ⟨sources, conflicts.map Conflict.diagnostic, ⟨conflicts, lenient, rfl⟩, ?_, ?_, ?_⟩
  · rw [strict]
    cases conflicts <;> simp [strictly]
  · intro conflict failed
    rw [strict] at failed
    -- A strict run that failed met a conflict, which is one of those of the operations.
    cases found : conflicts with
    | nil =>
      rw [found] at failed
      cases failed
    | cons first others =>
      rw [found] at failed
      cases failed
      have member : conflict ∈ operations.filterMap (conflictOf? operations) := by
        rw [← collected.conflicts, found]
        exact List.mem_cons_self
      obtain ⟨operation, -, own⟩ := List.mem_filterMap.mp member
      exact ⟨conflict.diagnostic, rfl, rfl, fault_conflictOf? own⟩
  · intro silent
    rw [strict, List.map_eq_nil_iff.mp silent]
    rfl

/-- A strict manifest is the lenient one. -/
theorem build_lenient {strict : Bool} {operations : List Operation} {moment : Moment}
    {manifest : Manifest} (built : build strict operations moment = .ok manifest) :
    build false operations moment = .ok manifest := by
  cases strict with
  | false => exact built
  | true =>
    obtain ⟨sources, conflicts, -, lenient⟩ := collect_collected operations
    have strict := collect_strict lenient
    unfold build at built ⊢
    rw [strict] at built
    -- Where the strict run goes on there is no conflict, and both collect the same.
    cases conflicts with
    | nil =>
      rw [lenient]
      exact built
    | cons first others => cases built

end Manifest

namespace Generation

open Sdl

/-- Settings with the two guards on or off, whatever they were. -/
def guarded (config : Config) (strict validate : Bool) : Config :=
  { config with strictDataSources := strict, validateSdl := validate }

variable {schema : Schema} {config : Config} {moment : Moment} {artifacts : Artifacts}

/-- A run has artifacts exactly if the document is written and passes, and the manifest is built. -/
theorem generate_eq_ok_iff :
    generate schema config moment = .ok artifacts ↔
      ∃ sdl manifest, writtenSchema? schema config.schemaDescription = some sdl ∧
        checked config sdl = .ok () ∧
        Manifest.build config.strictDataSources schema.operations moment = .ok manifest ∧
        artifacts = ⟨sdl, manifest.text, manifest.diagnostics⟩ := by
  constructor
  · intro generated
    obtain ⟨sdl, documented, rest⟩ := Except.ok_of_bind generated
    obtain ⟨manifest, built, made⟩ := Except.ok_of_bind rest
    cases made
    refine ⟨sdl, manifest, ?_, ?_, Except.ok_of_mapError built, rfl⟩
    -- The document was written, and then checked.
    all_goals
      unfold checkedDocument document? at documented
      split at documented
      · cases documented
      · rename_i written
        obtain ⟨⟨⟩, passed, same⟩ := Except.ok_of_bind documented
        cases same
        assumption
  · rintro ⟨sdl, manifest, written, passed, built, rfl⟩
    unfold generate checkedDocument document? Generation.manifest
    simp only [written, passed, built, bind, Except.bind, Except.mapError, pure, Except.pure]

/-- Guards that are off let the same artifacts through. -/
theorem generate_relaxed {strict validate strict' validate' : Bool} (strictOff : strict' ≤ strict)
    (validateOff : validate' ≤ validate)
    (generated : generate schema (guarded config strict validate) moment = .ok artifacts) :
    generate schema (guarded config strict' validate') moment = .ok artifacts := by
  obtain ⟨sdl, manifest, written, passed, built, rfl⟩ := generate_eq_ok_iff.mp generated
  refine generate_eq_ok_iff.mpr ⟨sdl, manifest, written, ?_, ?_, rfl⟩
  · -- A check that is off passes everything, and one that is on was on before.
    cases validate' with
    | false => rfl
    | true =>
      cases validate with
      | false => cases validateOff rfl
      | true => exact passed
  · cases strict' with
    | false => exact Manifest.build_lenient built
    | true =>
      cases strict with
      | false => cases strictOff rfl
      | true => exact built

/-- What two guards may do to the runs of one schema: they let the same artifacts pass or none. -/
structure OnlyGuards (schema : Schema) (config : Config) (moment : Moment) : Prop where
  /-- Under any two settings of the guards a result is the same. -/
  same : ∀ strict validate strict' validate' artifacts artifacts',
    generate schema (guarded config strict validate) moment = .ok artifacts →
    generate schema (guarded config strict' validate') moment = .ok artifacts' →
    artifacts = artifacts'
  /-- Switching one of the guards off keeps a result. -/
  relaxed : ∀ strict validate artifacts,
    generate schema (guarded config strict validate) moment = .ok artifacts →
    generate schema (guarded config false validate) moment = .ok artifacts ∧
      generate schema (guarded config strict false) moment = .ok artifacts

/--
Strict data sources and the check of the document are guards. A strict collection fails exactly
where a lenient one warns, with its first warning; and runs under any settings of both have the same
result, which switching one off never takes away.
-/
theorem guards_only :
    (∀ operations, ∃ sources warnings, Manifest.StrictAgrees operations sources warnings) ∧
      ∀ schema config moment, OnlyGuards schema config moment := by
  refine ⟨Manifest.exists_strictAgrees, fun schema config moment => ⟨?_, ?_⟩⟩
  · intro strict validate strict' validate' artifacts artifacts' generated generated'
    -- Both results are those of the run with both guards off.
    have one := generate_relaxed (Bool.false_le strict) (Bool.false_le validate) generated
    have other := generate_relaxed (Bool.false_le strict') (Bool.false_le validate') generated'
    exact Except.ok.inj (one.symm.trans other)
  · intro strict validate artifacts generated
    exact ⟨generate_relaxed (Bool.false_le strict) (Bool.le_refl validate) generated,
      generate_relaxed (Bool.le_refl strict) (Bool.false_le validate) generated⟩

end Generation

end AppSync
