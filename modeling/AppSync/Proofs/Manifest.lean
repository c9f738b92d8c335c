import AppSync.Manifest
import Mathlib.Data.List.Forall2
import Mathlib.Data.List.Induction
import Mathlib.Data.List.Nodup

/-! Resolvers and data sources of a manifest agree, and every disagreement is reported once. -/

namespace AppSync

/-- The data source that an operation uses, with the function that it names for it. -/
def Operation.use? (operation : Operation) : Option DataSource :=
  match operation.resolver with
  | .unit name _ => some ⟨name, operation.backing⟩
  | .pipeline .. => none

namespace Manifest

/-- The uses of data sources, in the order of the operations. -/
def uses (operations : List Operation) : List DataSource :=
  operations.filterMap Operation.use?

/-- The first use of a data source, which decides the function behind it. -/
def firstUse? (operations : List Operation) (name : String) : Option DataSource :=
  (uses operations).find? fun use => use.name = name

/-- The conflict of an operation with the first use of its data source. -/
def conflictOf? (operations : List Operation) (operation : Operation) : Option Conflict :=
  match operation.use? with
  | none => none
  | some use =>
    match firstUse? operations use.name with
    | none => none
    | some first =>
      if first.backing = use.backing then none
      else some ⟨use.name, first.backing, operation.qualifiedName, use.backing⟩

/-- What has been collected once some operations are passed: first uses, and conflicts with them. -/
structure Collected (operations : List Operation) (sources : List DataSource)
    (conflicts : List Conflict) : Prop where
  names : sources.map DataSource.name = ((uses operations).map DataSource.name).eraseDups
  first : ∀ source ∈ sources, firstUse? operations source.name = some source
  conflicts : conflicts = operations.filterMap (conflictOf? operations)

/-- A list without repetitions stays one when a member is left out or a new item is put behind. -/
theorem eraseDups_concat {α : Type} [DecidableEq α] (items : List α) (item : α) :
    (items ++ [item]).eraseDups =
      if item ∈ items then items.eraseDups else items.eraseDups ++ [item] := by
  -- The last item survives exactly when the items before it do not remove it.
  rw [List.eraseDups_append]
  by_cases member : item ∈ items
  · simp [member, List.removeAll]
  · simp [member, List.removeAll, List.eraseDups_cons]

/-- Distinct items in order of first occurrence are distinct. -/
theorem nodup_eraseDups {α : Type} [DecidableEq α] (items : List α) : items.eraseDups.Nodup := by
  -- Each further item is either left out or new.
  induction items using List.reverseRecOn with
  | nil => simp
  | append_singleton items item ih =>
    rw [eraseDups_concat]
    split
    · exact ih
    · rename_i fresh
      exact List.Nodup.append ih (List.nodup_singleton item) (by simpa using fresh)

/-- One more operation adds its use. -/
theorem uses_concat (operations : List Operation) (operation : Operation) :
    uses (operations ++ [operation]) = uses operations ++ operation.use?.toList := by
  rw [uses, uses, List.filterMap_append]
  cases used : operation.use? <;> simp [used]

/-- A first use stays the first when operations follow. -/
theorem firstUse?_concat_of_some {operations : List Operation} {name : String}
    {first : DataSource} (found : firstUse? operations name = some first)
    (operation : Operation) :
    firstUse? (operations ++ [operation]) name = some first := by
  -- The search ends in the earlier operations.
  unfold firstUse? at found ⊢
  rw [uses_concat, List.find?_append, found]
  rfl

/-- Where no operation uses a name, the next one that does is the first. -/
theorem firstUse?_concat_of_none {operations : List Operation} {operation : Operation}
    {use : DataSource} (used : operation.use? = some use)
    (absent : firstUse? operations use.name = none) :
    firstUse? (operations ++ [operation]) use.name = some use := by
  -- The search goes on to the last use, which has the name.
  unfold firstUse? at absent ⊢
  rw [uses_concat, List.find?_append, absent, used]
  simp

/-- A name has a first use exactly when it is among the names used. -/
theorem firstUse?_isSome {operations : List Operation} {name : String} :
    (firstUse? operations name).isSome ↔ name ∈ (uses operations).map DataSource.name := by
  simp [firstUse?, List.find?_isSome]

/-- An operation among others has a first use of its data source. -/
theorem exists_firstUse? {operations : List Operation} {operation : Operation}
    (member : operation ∈ operations) {use : DataSource} (used : operation.use? = some use) :
    ∃ first, firstUse? operations use.name = some first := by
  -- The operation's own use bears the name.
  refine Option.isSome_iff_exists.mp (firstUse?_isSome.mpr ?_)
  exact List.mem_map_of_mem (List.mem_filterMap.mpr ⟨operation, member, used⟩)

/-- Conflicts of earlier operations do not depend on those that follow. -/
theorem conflictOf?_concat {operations : List Operation} {earlier : Operation}
    (member : earlier ∈ operations) (operation : Operation) :
    conflictOf? (operations ++ [operation]) earlier = conflictOf? operations earlier := by
  -- What the earlier operation is compared with was settled before.
  unfold conflictOf?
  cases used : earlier.use? with
  | none => rfl
  | some use =>
    obtain ⟨first, found⟩ := exists_firstUse? member used
    simp only [found, firstUse?_concat_of_some found operation]

/-- The conflicts of one more operation come behind those before it. -/
theorem conflicts_concat (operations : List Operation) (operation : Operation) :
    (operations ++ [operation]).filterMap (conflictOf? (operations ++ [operation])) =
      operations.filterMap (conflictOf? operations) ++
        (conflictOf? (operations ++ [operation]) operation).toList := by
  rw [List.filterMap_append,
    List.filterMap_congr fun earlier member => conflictOf?_concat member operation]
  cases own : conflictOf? (operations ++ [operation]) operation <;> simp [own]

namespace Collected

variable {operations : List Operation} {sources : List DataSource} {conflicts : List Conflict}

/-- A collected source is found under its name exactly as its first use is. -/
theorem find? (collected : Collected operations sources conflicts) (name : String) :
    (sources.find? fun source => source.name = name) = firstUse? operations name := by
  cases found : sources.find? fun source => source.name = name with
  | some source =>
    -- A source that is found has the name and is the first use of it.
    have named : source.name = name := by simpa using List.find?_some found
    rw [← named, collected.first source (List.mem_of_find?_eq_some found)]
  | none =>
    -- A name that no source has is not used at all.
    have absent : name ∉ sources.map DataSource.name := by simpa using found
    rw [collected.names, List.mem_eraseDups, ← firstUse?_isSome] at absent
    exact (Option.not_isSome_iff_eq_none.mp absent).symm

/-- An operation without a data source changes nothing. -/
theorem skip (collected : Collected operations sources conflicts) {operation : Operation}
    (unused : operation.use? = none) :
    Collected (operations ++ [operation]) sources conflicts := by
  -- The uses are as they were, and so are the first ones among them.
  have same : uses (operations ++ [operation]) = uses operations := by
    simp [uses_concat, unused]
  constructor
  · rw [same, collected.names]
  · intro source member
    exact firstUse?_concat_of_some (collected.first source member) operation
  · rw [conflicts_concat, ← collected.conflicts]
    simp [conflictOf?, unused]

/-- A data source that is used for the first time is put behind the others. -/
theorem add (collected : Collected operations sources conflicts) {operation : Operation}
    {use : DataSource} (used : operation.use? = some use)
    (absent : firstUse? operations use.name = none) :
    Collected (operations ++ [operation]) (sources ++ [use]) conflicts := by
  have fresh : use.name ∉ (uses operations).map DataSource.name := by
    rw [← firstUse?_isSome, absent]
    simp
  -- The new name comes last, its use is the first one, and there is nothing to conflict with.
  constructor
  · rw [uses_concat, used, Option.toList_some, List.map_append, List.map_append, List.map_singleton,
      eraseDups_concat, if_neg fresh, collected.names]
  · intro source member
    rcases List.mem_append.mp member with member | member
    · exact firstUse?_concat_of_some (collected.first source member) operation
    · rw [List.mem_singleton.mp member]
      exact firstUse?_concat_of_none used absent
  · rw [conflicts_concat, ← collected.conflicts]
    simp [conflictOf?, used, firstUse?_concat_of_none used absent]

/-- A data source that is used again adds no source, and a conflict if the functions differ. -/
theorem again (collected : Collected operations sources conflicts) {operation : Operation}
    {use first : DataSource} (used : operation.use? = some use)
    (found : firstUse? operations use.name = some first) :
    Collected (operations ++ [operation]) sources
      (conflicts ++ (conflictOf? (operations ++ [operation]) operation).toList) := by
  have taken : use.name ∈ (uses operations).map DataSource.name := by
    rw [← firstUse?_isSome, found]
    rfl
  -- The name is there already; only the conflicts may grow.
  constructor
  · rw [uses_concat, used, Option.toList_some, List.map_append, List.map_singleton,
      eraseDups_concat, if_pos taken, collected.names]
  · intro source member
    exact firstUse?_concat_of_some (collected.first source member) operation
  · rw [conflicts_concat, ← collected.conflicts]

end Collected

/-- Before any operation nothing is collected. -/
theorem collected_nil : Collected [] [] [] :=
  ⟨rfl, by simp, rfl⟩

/-- One step of a lenient collection takes what is collected to what is one operation on. -/
theorem collectFrom_step {operations : List Operation} {sources : List DataSource}
    {conflicts : List Conflict} (collected : Collected operations sources conflicts)
    (operation : Operation) (rest : List Operation) :
    ∃ sources' conflicts', Collected (operations ++ [operation]) sources' conflicts' ∧
      collectFrom false sources conflicts (operation :: rest) =
        collectFrom false sources' conflicts' rest := by
  -- The cases are those of the collection: no data source, a new one, one that is used again.
  cases resolver : operation.resolver with
  | pipeline functions some blank =>
    have unused : operation.use? = none := by simp [Operation.use?, resolver]
    exact ⟨sources, conflicts, collected.skip unused, by simp only [collectFrom, resolver]⟩
  | unit name named =>
    have used : operation.use? = some ⟨name, operation.backing⟩ := by
      simp [Operation.use?, resolver]
    cases found : firstUse? operations name with
    | none =>
      refine ⟨_, _, collected.add used found, ?_⟩
      simp only [collectFrom, resolver, collected.find?, found]
    | some first =>
      refine ⟨_, _, collected.again used found, ?_⟩
      have kept := firstUse?_concat_of_some found operation
      simp only [collectFrom, resolver, collected.find?, found, conflictOf?, used, kept]
      -- An agreeing function adds no conflict, a differing one adds its own.
      split <;> simp

/-- A lenient collection never fails, and has collected what all of its operations use. -/
theorem collectFrom_collected {operations : List Operation} {sources : List DataSource}
    {conflicts : List Conflict} (collected : Collected operations sources conflicts)
    (rest : List Operation) :
    ∃ sources' conflicts', Collected (operations ++ rest) sources' conflicts' ∧
      collectFrom false sources conflicts rest = .ok (sources', conflicts') := by
  -- Each operation moves from the rest to those that are passed.
  induction rest generalizing operations sources conflicts with
  | nil => exact ⟨sources, conflicts, by simpa using collected, rfl⟩
  | cons operation rest ih =>
    obtain ⟨_, _, stepped, same⟩ := collectFrom_step collected operation rest
    obtain ⟨sources', conflicts', final, run⟩ := ih stepped
    exact ⟨sources', conflicts', by simpa using final, same.trans run⟩

/-- What a lenient run collects from operations. -/
theorem collect_collected (operations : List Operation) :
    ∃ sources conflicts, Collected operations sources conflicts ∧
      collect false operations = .ok (sources, conflicts) :=
  collectFrom_collected collected_nil operations

/-- The manifest that a lenient run builds at a moment of the calendar. -/
theorem exists_build (operations : List Operation) {moment : Moment} {timestamp : String}
    (stamped : Calendar.timestamp? moment = some timestamp) :
    ∃ sources conflicts, Collected operations sources conflicts ∧
      build false operations moment =
        .ok ⟨documentOf operations sources timestamp, sources, conflicts⟩ := by
  obtain ⟨sources, conflicts, collected, run⟩ := collect_collected operations
  refine ⟨sources, conflicts, collected, ?_⟩
  unfold build
  rw [run, stamped]

/-- What the entry of a resolver says of its operation. -/
structure DescribesResolver (operation : Operation) (entry : Json) : Prop where
  typeName : entry.get? "typeName" = some (.text operation.root.name)
  fieldName : entry.get? "fieldName" = some (.text operation.fieldName)
  kind : entry.get? "kind" = some (.text operation.resolver.kind.word)
  dataSource : entry.get? "dataSource" = operation.use?.map fun use => .text use.name
  function : entry.get? "lambdaFunctionLogicalId" = operation.use?.map fun use => .text use.backing

/-- What the entry of a data source says of it. -/
structure DescribesSource (source : DataSource) (entry : Json) : Prop where
  name : entry.get? "name" = some (.text source.name)
  function : ((entry.get? "lambdaConfig").bind fun config => config.get? "functionArn") =
    some (.text ("$\x7b" ++ source.backing ++ ".Arn\x7d"))

/-- A manifest in which resolvers, data sources and warnings belong together. -/
structure RefersSoundly (operations : List Operation) (manifest : Manifest) : Prop where
  /-- There is one resolver for each operation, in the same order. -/
  resolvers : ∃ entries, manifest.document.get? "resolvers" = some (.array entries) ∧
    List.Forall₂ DescribesResolver operations entries
  /-- The listed data sources are those of the manifest. -/
  listed : ∃ entries, manifest.document.get? "dataSources" = some (.array entries) ∧
    List.Forall₂ DescribesSource manifest.sources entries
  /-- They are the ones that unit operations use, each once, in order of first use. -/
  names : manifest.sources.map DataSource.name =
    ((uses operations).map DataSource.name).eraseDups
  distinct : (manifest.sources.map DataSource.name).Nodup
  /-- The data source of a resolver is named by one entry of the list. -/
  named : ∀ operation ∈ operations, ∀ use, operation.use? = some use →
    (manifest.sources.map DataSource.name).count use.name = 1
  /-- The function of a data source is that of the first operation that uses it. -/
  function : ∀ source ∈ manifest.sources, firstUse? operations source.name = some source
  /-- An operation names the function of its data source exactly if it has no conflict. -/
  agreement : ∀ operation ∈ operations, ∀ use, operation.use? = some use →
    ∃ source ∈ manifest.sources, source.name = use.name ∧
      (use.backing = source.backing ↔ conflictOf? operations operation = none)
  /-- Each conflict is warned of once, in the order of the operations. -/
  warnings : manifest.diagnostics =
    (operations.filterMap (conflictOf? operations)).map Conflict.diagnostic
  /-- A warning has the code of such conflicts and stands at its operation. -/
  located : ∀ operation conflict, conflictOf? operations operation = some conflict →
    conflict.diagnostic.code = .dataSourceConflict ∧ conflict.diagnostic.severity = .warning ∧
      conflict.diagnostic.location = some operation.qualifiedName

/-- A member that may be left out is not the one under another name. -/
theorem find?_optionalText {name other : String} (differ : name ≠ other) (value : Option String) :
    (optionalText name value).find? (fun member => member.1 = other) = none := by
  unfold optionalText
  split <;> simp [differ]

/-- The entry of a resolver names the operation, and its data source and function if it has them. -/
theorem resolverEntry_describes (operation : Operation) :
    DescribesResolver operation (resolverEntry operation) := by
  -- The members before the optional ones are found at once, and the others have other names.
  cases resolver : operation.resolver with
  | unit source named =>
    constructor <;>
      simp [resolverEntry, Json.get?, Operation.use?, resolver, unitMembers, List.find?_append,
        find?_optionalText]
  | pipeline functions some blank =>
    constructor <;>
      simp [resolverEntry, Json.get?, Operation.use?, resolver, pipelineMembers,
        List.find?_append, find?_optionalText]

/-- The entry of a data source names it and the function behind it. -/
theorem dataSourceEntry_describes (source : DataSource) :
    DescribesSource source (dataSourceEntry source) := by
  constructor <;> simp [dataSourceEntry, Json.get?, functionReference]

/-- The warning of a conflict has the code of such conflicts and stands at its operation. -/
theorem diagnostic_conflictOf? {operations : List Operation} {operation : Operation}
    {conflict : Conflict} (found : conflictOf? operations operation = some conflict) :
    conflict.diagnostic.code = .dataSourceConflict ∧ conflict.diagnostic.severity = .warning ∧
      conflict.diagnostic.location = some operation.qualifiedName := by
  -- A conflict comes from the one branch in which two functions differ.
  unfold conflictOf? at found
  split at found
  · simp at found
  · split at found
    · simp at found
    · split at found
      · simp at found
      · cases found
        exact ⟨rfl, rfl, rfl⟩

/-- Without strict mode, a moment on the calendar gives a manifest whose parts belong together. -/
theorem build_refersSoundly (operations : List Operation) {moment : Moment} {timestamp : String}
    (stamped : Calendar.timestamp? moment = some timestamp) :
    ∃ manifest, build false operations moment = .ok manifest ∧
      RefersSoundly operations manifest := by
  obtain ⟨sources, conflicts, collected, run⟩ := collect_collected operations
  have distinct : (sources.map DataSource.name).Nodup := by
    rw [collected.names]
    exact nodup_eraseDups _
  -- The first use of a data source that is used stands among those collected.
  have listed (operation : Operation) (member : operation ∈ operations) (use : DataSource)
      (used : operation.use? = some use) :
      ∃ source ∈ sources, source.name = use.name ∧
        firstUse? operations use.name = some source := by
    obtain ⟨first, found⟩ := exists_firstUse? member used
    have located := collected.find? use.name
    rw [found] at located
    exact ⟨first, List.mem_of_find?_eq_some located, by simpa using List.find?_some located, found⟩
  refine ⟨⟨documentOf operations sources timestamp, sources, conflicts⟩,
    by simp only [build, run, stamped], ?_⟩
  exact {
    resolvers := ⟨operations.map resolverEntry, by simp [documentOf, Json.get?],
      List.forall₂_map_right_iff.mpr
        (List.forall₂_same.mpr fun operation _ => resolverEntry_describes operation)⟩
    listed := ⟨sources.map dataSourceEntry, by simp [documentOf, Json.get?],
      List.forall₂_map_right_iff.mpr
        (List.forall₂_same.mpr fun source _ => dataSourceEntry_describes source)⟩
    names := collected.names
    distinct := distinct
    named := by
      intro operation member use used
      obtain ⟨source, among, same, _⟩ := listed operation member use used
      exact List.count_eq_one_of_mem distinct (same ▸ List.mem_map_of_mem among)
    function := collected.first
    agreement := by
      intro operation member use used
      obtain ⟨source, among, same, found⟩ := listed operation member use used
      refine ⟨source, among, same, ?_⟩
      simp [conflictOf?, used, found, eq_comm]
    warnings := by rw [diagnostics, collected.conflicts]
    located := fun _ _ found => diagnostic_conflictOf? found }

/-- Three operations on one data source, of which the second names another function. -/
def disputedOperations : List Operation :=
  [⟨.query, "order", "Order", none, [], .unit "Orders" (by decide), [], {}⟩,
    ⟨.mutation, "pay", "Order", none, [], .unit "Orders" (by decide), [],
      { functionName := some "Payments" }⟩,
    ⟨.query, "orders", "[Order]", none, [], .pipeline ["find"] (by decide) false, [], {}⟩,
    ⟨.query, "total", "Int", none, [], .unit "Orders" (by decide), [],
      { functionLogicalId := some "OrdersFunction" }⟩]

/-- The one disagreement among operations is warned of once. -/
theorem disputed_refersSoundly :
    Calendar.timestamp? ⟨⟨2024, 1, 15⟩, ⟨10, 30, 0, 0⟩, none⟩ = some "2024-01-15T10:30:00Z" ∧
      (disputedOperations.filterMap (conflictOf? disputedOperations)).length = 1 ∧
      ∃ manifest, build false disputedOperations ⟨⟨2024, 1, 15⟩, ⟨10, 30, 0, 0⟩, none⟩ =
        .ok manifest ∧ RefersSoundly disputedOperations manifest := by
  have stamped : Calendar.timestamp? ⟨⟨2024, 1, 15⟩, ⟨10, 30, 0, 0⟩, none⟩ =
      some "2024-01-15T10:30:00Z" := by decide
  exact ⟨stamped, by decide, build_refersSoundly disputedOperations stamped⟩

end Manifest

end AppSync
