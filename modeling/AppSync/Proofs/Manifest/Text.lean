import AppSync.Proofs.Json.RoundTrip
import AppSync.Proofs.Manifest

/-! The text of a manifest is shown in ASCII and decodes to the document that was built. -/

namespace AppSync

open Text (hasHalves)
open Json (Plain)

/-- Deployment settings without halves of characters. -/
structure Deployment.Whole (deployment : Deployment) : Prop where
  functionName : ∀ text ∈ deployment.functionName, hasHalves text = false
  functionLogicalId : ∀ text ∈ deployment.functionLogicalId, hasHalves text = false
  runtime : hasHalves deployment.runtime = false
  requestMapping : ∀ text ∈ deployment.requestMapping, hasHalves text = false
  responseMapping : ∀ text ∈ deployment.responseMapping, hasHalves text = false
  resourceName : ∀ text ∈ deployment.resourceName, hasHalves text = false
  policies : ∀ text ∈ deployment.policies, hasHalves text = false
  role : ∀ text ∈ deployment.role, hasHalves text = false

/-- An operation without halves of characters in what a manifest shows of it. -/
structure Operation.Whole (operation : Operation) : Prop where
  fieldName : hasHalves operation.fieldName = false
  description : ∀ text ∈ operation.description, hasHalves text = false
  dataSource : ∀ text ∈ operation.resolver.dataSource?, hasHalves text = false
  functions : ∀ text ∈ operation.resolver.functions, hasHalves text = false
  deployment : operation.deployment.Whole

namespace Json

/-- Members with some of the given names, in their order, and plain values. -/
structure PlainMembers (names : List String) (members : List (String × Json)) : Prop where
  named : (members.map Prod.fst).Sublist names
  plain : ∀ member ∈ members, Plain member.2

namespace PlainMembers

variable {names others : List String} {members more : List (String × Json)} {name : String}

/-- Members put behind others have their names behind those of the others. -/
theorem append (first : PlainMembers names members) (second : PlainMembers others more) :
    PlainMembers (names ++ others) (members ++ more) := by
  constructor
  · rw [List.map_append]
    exact first.named.append second.named
  · intro member inside
    rcases List.mem_append.mp inside with inside | inside
    · exact first.plain member inside
    · exact second.plain member inside

/-- No members are any members. -/
theorem nil (names : List String) : PlainMembers names [] :=
  ⟨List.nil_sublist names, fun _ member => nomatch member⟩

/-- A member behind a name of its own. -/
theorem cons (name : String) {value : Json} (plain : Plain value)
    (rest : PlainMembers names members) :
    PlainMembers (name :: names) ((name, value) :: members) :=
  ⟨rest.named.cons_cons name, List.forall_mem_cons.mpr ⟨plain, rest.plain⟩⟩

/-- A member that is left out where there is no text. -/
theorem optionalText {value : Option String} (whole : ∀ text ∈ value, hasHalves text = false) :
    PlainMembers [name] (Manifest.optionalText name value) := by
  unfold Manifest.optionalText
  split
  · rename_i text given
    exact .cons name (.text (whole text (Option.filter_eq_some_iff.mp given).1)) (.nil [])
  · exact .nil [name]

/-- A member that is left out where there is no number. -/
theorem optionalNumber (value : Option Int) :
    PlainMembers [name] (Manifest.optionalNumber name value) := by
  cases value with
  | some number => exact .cons name (.int number) (.nil [])
  | none => exact .nil [name]

/-- Plain members with different names make a plain object. -/
theorem object (plain : PlainMembers names members) (distinct : names.Nodup)
    (whole : ∀ name ∈ names, hasHalves name = false) : Plain (.object members) := by
  refine .object (plain.named.nodup distinct) (fun member inside => ?_) plain.plain
  exact whole member.1 (plain.named.subset (List.mem_map_of_mem inside))

end PlainMembers

/-- A list of texts without halves of characters is plain. -/
theorem Plain.texts {texts : List String} (whole : ∀ text ∈ texts, hasHalves text = false) :
    Plain (.array (texts.map Json.text)) := by
  refine .array fun item member => ?_
  obtain ⟨text, inside, rfl⟩ := List.mem_map.mp member
  exact .text (whole text inside)

/-- Plain values make a plain list. -/
theorem Plain.map {α : Type} {make : α → Json} {items : List α}
    (each : ∀ item ∈ items, Plain (make item)) : Plain (.array (items.map make)) := by
  refine .array fun value member => ?_
  obtain ⟨item, inside, rfl⟩ := List.mem_map.mp member
  exact each item inside

end Json

namespace Manifest

open Json (PlainMembers)

/-- The name of a function that is made of another text is as whole as that. -/
theorem hasHalves_functionIdOf {name : String} (whole : hasHalves name = false) :
    hasHalves (Deployment.functionIdOf name) = false := by
  have suffix : hasHalves "Function" = false := by decide +kernel
  rw [Deployment.functionIdOf, Text.hasHalves_append, whole, suffix]
  rfl

/-- The function behind an operation is named by texts of the operation. -/
theorem hasHalves_backing {operation : Operation} (whole : operation.Whole) :
    hasHalves operation.backing = false := by
  unfold Operation.backing Deployment.backing?
  -- A logical id comes first, then the name of the function, then that of the data source.
  cases given : operation.deployment.functionLogicalId.filter (· ≠ "") with
  | some id =>
    exact whole.deployment.functionLogicalId id (Option.filter_eq_some_iff.mp given).1
  | none =>
    cases given : operation.deployment.functionName.filter (· ≠ "") with
    | some name =>
      have named := whole.deployment.functionName name (Option.filter_eq_some_iff.mp given).1
      exact hasHalves_functionIdOf named
    | none =>
      refine hasHalves_functionIdOf ?_
      cases given : operation.resolver.dataSource? with
      | some source => exact whole.dataSource source given
      | none =>
        have absent : hasHalves "None" = false := by decide +kernel
        exact absent

/-- The members of a unit resolver are plain, and each has a name of its own. -/
theorem plain_unitMembers {operation : Operation} (whole : operation.Whole) {source : String}
    (sourced : hasHalves source = false) :
    PlainMembers ["dataSource", "lambdaFunctionName", "lambdaFunctionLogicalId", "runtime",
      "requestMapping", "responseMapping", "resourceName", "memorySize", "timeout", "policies",
      "role"] (unitMembers operation source) := by
  have texts := whole.deployment
  have first : PlainMembers ["dataSource"] [("dataSource", .text source)] :=
    .cons _ (.text sourced) (.nil [])
  have functions : PlainMembers ["lambdaFunctionLogicalId", "runtime"]
      [("lambdaFunctionLogicalId", .text operation.backing),
        ("runtime", .text operation.deployment.runtime)] :=
    .cons _ (.text (hasHalves_backing whole)) (.cons _ (.text texts.runtime) (.nil []))
  -- An empty list of policies is left out like an absent text.
  have allowed : PlainMembers ["policies"] (if operation.deployment.policies.isEmpty then []
      else [("policies", .array (operation.deployment.policies.map Json.text))]) := by
    split
    · exact .nil _
    · exact .cons _ (.texts texts.policies) (.nil [])
  exact first |>.append (.optionalText texts.functionName) |>.append functions
    |>.append (.optionalText texts.requestMapping) |>.append (.optionalText texts.responseMapping)
    |>.append (.optionalText texts.resourceName) |>.append (.optionalNumber _)
    |>.append (.optionalNumber _) |>.append allowed |>.append (.optionalText texts.role)

/-- The members of a pipeline resolver are plain, and each has a name of its own. -/
theorem plain_pipelineMembers {operation : Operation} (whole : operation.Whole)
    {functions : List String} (called : ∀ name ∈ functions, hasHalves name = false) :
    PlainMembers ["functions", "runtime", "requestMapping", "responseMapping"]
      (pipelineMembers operation functions) := by
  have texts := whole.deployment
  have first : PlainMembers ["functions", "runtime"]
      [("functions", .array (functions.map Json.text)),
        ("runtime", .text operation.deployment.runtime)] :=
    .cons _ (.texts called) (.cons _ (.text texts.runtime) (.nil []))
  exact first |>.append (.optionalText texts.requestMapping)
    |>.append (.optionalText texts.responseMapping)

/-- The entry of a resolver is plain. -/
theorem plain_resolverEntry {operation : Operation} (whole : operation.Whole) :
    Plain (resolverEntry operation) := by
  have root : hasHalves operation.root.name = false := by
    cases operation.root <;> decide +kernel
  have kinds (kind : Resolver.Kind) : hasHalves kind.word = false := by
    cases kind <;> decide +kernel
  have first : PlainMembers ["typeName", "fieldName", "kind"]
      [("typeName", .text operation.root.name), ("fieldName", .text operation.fieldName),
        ("kind", .text operation.resolver.kind.word)] :=
    .cons _ (.text root) (.cons _ (.text whole.fieldName) (.cons _ (.text (kinds _)) (.nil [])))
  have last : PlainMembers ["description"] (optionalText "description" operation.description) :=
    .optionalText whole.description
  unfold resolverEntry
  -- The members in the middle are those of the kind of resolver.
  cases resolver : operation.resolver with
  | unit source named =>
    have sourced := whole.dataSource source (by rw [resolver]; rfl)
    have middle := plain_unitMembers whole sourced
    rw [resolver] at first
    exact ((first.append middle).append last).object (by decide) (by decide +kernel)
  | pipeline functions some blank =>
    have called := whole.functions
    rw [resolver] at called first
    have middle := plain_pipelineMembers whole called
    exact ((first.append middle).append last).object (by decide) (by decide +kernel)

/-- The entry of a data source is plain. -/
theorem plain_dataSourceEntry {source : DataSource} (named : hasHalves source.name = false)
    (backed : hasHalves source.backing = false) : Plain (dataSourceEntry source) := by
  have reference {identity : String} (whole : hasHalves identity = false) :
      hasHalves (functionReference identity) = false := by
    have opening : hasHalves "$\x7b" = false := by decide +kernel
    have closing : hasHalves ".Arn\x7d" = false := by decide +kernel
    rw [functionReference, Text.hasHalves_append, Text.hasHalves_append, opening, whole, closing]
    rfl
  have kind : hasHalves "AWS_LAMBDA" = false := by decide +kernel
  have role : hasHalves "LambdaDataSourceRole" = false := by decide +kernel
  have config : Plain (.object [("functionArn", .text (functionReference source.backing))]) :=
    (PlainMembers.cons "functionArn" (.text (reference backed)) (.nil [])).object (by decide)
      (by decide +kernel)
  -- The names given are the source and its backing; all else is fixed text.
  have members : PlainMembers ["name", "type", "serviceRoleArn", "lambdaConfig"] _ :=
    .cons "name" (.text named) (.cons "type" (.text kind)
      (.cons "serviceRoleArn" (.text (reference role)) (.cons "lambdaConfig" config (.nil []))))
  exact members.object (by decide) (by decide +kernel)

/-- A timestamp has digits and marks in it. -/
theorem hasHalves_timestamp {moment : Moment} {stamp : String}
    (formats : Calendar.timestamp? moment = some stamp) : hasHalves stamp = false := by
  have number (value : Nat) : hasHalves (toString value) = false := by
    have written : (toString value).toList = Nat.toDigits 10 value := Nat.toList_repr
    rw [hasHalves, List.any_eq_false, written]
    intro c digit
    have bounds := Text.bounds_of_isDigit
      (Nat.isDigit_of_mem_toDigits (by decide) (by decide) digit)
    rw [Text.carriesHalf_of_small (by omega)]
    exact Bool.false_ne_true
  have padded (value : Nat) : hasHalves (Calendar.twoDigits value) = false := by
    have zero : hasHalves "0" = false := by decide +kernel
    unfold Calendar.twoDigits
    split
    · rw [Text.hasHalves_append, zero, number]
      rfl
    · exact number value
  -- A stamp is made of numbers, some padded, with marks between them.
  obtain ⟨utc, -, rfl⟩ := Option.map_eq_some_iff.mp formats
  have marks : ∀ mark ∈ ["-", "T", ":", "Z"], hasHalves mark = false := by decide +kernel
  simp only [List.forall_mem_cons] at marks
  simp only [Calendar.stamp, Text.hasHalves_append, number, padded, marks, Bool.or_self]

/-- A data source that is collected belongs to an operation. -/
theorem exists_of_collected {operations : List Operation} {sources : List DataSource}
    {conflicts : List Conflict} (collected : Collected operations sources conflicts)
    {source : DataSource} (member : source ∈ sources) :
    ∃ operation ∈ operations, operation.use? = some source := by
  have used := List.mem_of_find?_eq_some (collected.first source member)
  exact List.mem_filterMap.mp used

/-- The document of a manifest is plain. -/
theorem plain_documentOf {operations : List Operation} {sources : List DataSource}
    {conflicts : List Conflict} {stamp : String}
    (whole : ∀ operation ∈ operations, operation.Whole)
    (collected : Collected operations sources conflicts) (stamped : hasHalves stamp = false) :
    Plain (documentOf operations sources stamp) := by
  have entries : Plain (.array (operations.map resolverEntry)) :=
    .map fun operation member => plain_resolverEntry (whole operation member)
  have listed : Plain (.array (sources.map dataSourceEntry)) := by
    refine .map fun source member => ?_
    obtain ⟨operation, inside, used⟩ := exists_of_collected collected member
    -- The source has the name that the operation states and the function behind the operation.
    cases resolver : operation.resolver with
    | pipeline functions some blank => simp [Operation.use?, resolver] at used
    | unit name named =>
      simp only [Operation.use?, resolver, Option.some.injEq] at used
      have texts := whole operation inside
      have sourced := texts.dataSource name (by rw [resolver]; rfl)
      rw [← used]
      exact plain_dataSourceEntry sourced (hasHalves_backing texts)
  have schema : hasHalves "https://lambda-graphql.dev/schemas/resolvers.json" = false := by
    decide +kernel
  have version : hasHalves "1.0.0" = false := by decide +kernel
  have functions : Plain (.array []) := .array (List.forall_mem_nil _)
  have members : PlainMembers
      ["$schema", "version", "generatedAt", "resolvers", "dataSources", "functions"] _ :=
    .cons "$schema" (.text schema) (.cons "version" (.text version)
      (.cons "generatedAt" (.text stamped) (.cons "resolvers" entries
        (.cons "dataSources" listed (.cons "functions" functions (.nil []))))))
  exact members.object (by decide) (by decide +kernel)

/--
The text of a manifest decodes to the document that was built, where the texts of its operations
have no halves of characters. It consists of printable ASCII and line breaks only.
-/
theorem read?_text {operations : List Operation} {moment : Moment} {stamp : String}
    (whole : ∀ operation ∈ operations, operation.Whole)
    (formats : Calendar.timestamp? moment = some stamp) :
    ∃ manifest, build false operations moment = .ok manifest ∧
      Json.read? manifest.text = some manifest.document ∧
      ∀ c ∈ manifest.text.toList, c = '\n' ∨ (' ' ≤ c ∧ c ≤ '~') := by
  obtain ⟨sources, conflicts, collected, built⟩ := exists_build operations formats
  have plain := plain_documentOf whole collected (hasHalves_timestamp formats)
  exact ⟨_, built, plain.read?_indented⟩

/-- A query whose texts have a quote, a backslash, controls and characters beyond ASCII in them. -/
def trickyQuery : Operation :=
  ⟨.query, "say\"it\\", "String", some "bell \x07 and \x7f, é and 😀", [],
    .unit "Tables" (by decide), [],
    { requestMapping := some "\x7b\n\t\"version\": 1\n\x7d"
      memorySize := some ⟨256, by decide⟩
      policies := ["read 🔑", "write"] }⟩

/-- A mutation that two functions serve one after the other. -/
def chainedMutation : Operation :=
  ⟨.mutation, "change", "String", none, [], .pipeline ["first", "sécond"] (by decide) false, [], {}⟩

/-- Noon by a clock that is an hour ahead of UTC. -/
def earlyNoon : Moment :=
  ⟨⟨2024, 1, 15⟩, ⟨12, 0, 0, 0⟩, some 3600⟩

/-- The manifest of the two operations decodes to its document. -/
theorem read?_text_tricky :
    (∀ operation ∈ [trickyQuery, chainedMutation], operation.Whole) ∧
      Calendar.timestamp? earlyNoon = some "2024-01-15T11:00:00Z" ∧
      ∃ manifest, build false [trickyQuery, chainedMutation] earlyNoon = .ok manifest ∧
        Json.read? manifest.text = some manifest.document ∧
        ∀ c ∈ manifest.text.toList, c = '\n' ∨ (' ' ≤ c ∧ c ≤ '~') := by
  have trickyTexts : trickyQuery.deployment.Whole := by constructor <;> decide +kernel
  have tricky : trickyQuery.Whole :=
    ⟨by decide +kernel, by decide +kernel, by decide +kernel, by decide +kernel, trickyTexts⟩
  have chainedTexts : chainedMutation.deployment.Whole := by constructor <;> decide +kernel
  have chained : chainedMutation.Whole :=
    ⟨by decide +kernel, by decide +kernel, by decide +kernel, by decide +kernel, chainedTexts⟩
  have whole : ∀ operation ∈ [trickyQuery, chainedMutation], operation.Whole := by
    simp only [List.forall_mem_cons, List.not_mem_nil, false_implies, implies_true, and_true]
    exact ⟨tricky, chained⟩
  have formats : Calendar.timestamp? earlyNoon = some "2024-01-15T11:00:00Z" := by
    decide +kernel
  exact ⟨whole, formats, read?_text whole formats⟩

end Manifest

end AppSync
