import AppSync.Command.Run
import AppSync.FileTree
import AppSync.Proofs.Command.Display
import AppSync.Proofs.Strictness

/-!
A check predicts strict generating: it ends well exactly where a dry run of strict generating does
and nothing was left out of the schema. The preview of a dry run takes brackets in file names for
marks, which is the one thing that a check does not look at.
-/

namespace AppSync

namespace Manifest

variable {strict : Bool} {operations : List Operation} {moment : Moment}

/-- A manifest is built of what is collected, at a moment of the calendar. -/
theorem build_eq_ok_iff {manifest : Manifest} :
    build strict operations moment = .ok manifest ↔
      ∃ sources conflicts timestamp, collect strict operations = .ok (sources, conflicts) ∧
        Calendar.timestamp? moment = some timestamp ∧
        manifest = ⟨documentOf operations sources timestamp, sources, conflicts⟩ := by
  unfold build
  -- It fails where collecting does, and where the moment has left the calendar.
  cases collected : collect strict operations with
  | error conflict => simp
  | ok found =>
    obtain ⟨sources, conflicts⟩ := found
    cases Calendar.timestamp? moment with
    | none => simp
    | some timestamp => simp [eq_comm]

/-- A strict collection has no conflicts, and any collection without them is a strict one. -/
theorem collect_clear {sources : List DataSource} {conflicts : List Conflict} :
    collect true operations = .ok (sources, conflicts) ↔
      collect strict operations = .ok (sources, []) ∧ conflicts = [] := by
  obtain ⟨collected, found, -, lenient⟩ := collect_collected operations
  have strictRun := collect_strict lenient
  -- Only what the lenient collection finds decides on both.
  cases strict with
  | true => cases found <;> simp [strictRun, strictly, eq_comm]
  | false =>
    rw [strictRun, lenient]
    cases found <;> simp [strictly, eq_comm]

/-- A strict manifest can be built exactly if a manifest can be that warns about nothing. -/
theorem build_strict_iff {first second : Moment}
    (moments : (Calendar.timestamp? first).isSome = (Calendar.timestamp? second).isSome) :
    (∃ manifest, build strict operations first = .ok manifest ∧ manifest.conflicts = []) ↔
      ∃ manifest, build true operations second = .ok manifest := by
  -- Both moments have a timestamp or neither has.
  rw [Bool.eq_iff_iff, Option.isSome_iff_exists, Option.isSome_iff_exists] at moments
  constructor
  · rintro ⟨manifest, built, clear⟩
    obtain ⟨sources, conflicts, timestamp, collected, written, rfl⟩ := build_eq_ok_iff.mp built
    have silent : conflicts = [] := clear
    rw [silent] at collected
    obtain ⟨later, also⟩ := moments.mp ⟨timestamp, written⟩
    exact ⟨_, build_eq_ok_iff.mpr
      ⟨sources, [], later, collect_clear.mpr ⟨collected, rfl⟩, also, rfl⟩⟩
  · rintro ⟨manifest, built⟩
    obtain ⟨sources, conflicts, timestamp, collected, written, rfl⟩ := build_eq_ok_iff.mp built
    obtain ⟨lenient, rfl⟩ := collect_clear.mp collected
    obtain ⟨earlier, also⟩ := moments.mpr ⟨timestamp, written⟩
    exact ⟨_, build_eq_ok_iff.mpr ⟨sources, [], earlier, lenient, also, rfl⟩, rfl⟩

/-- A strict manifest has no conflicts. -/
theorem conflicts_of_strict {manifest : Manifest}
    (built : build true operations moment = .ok manifest) : manifest.conflicts = [] := by
  obtain ⟨sources, conflicts, timestamp, collected, -, rfl⟩ := build_eq_ok_iff.mp built
  have clear : collect true operations = .ok (sources, []) ∧ conflicts = [] :=
    collect_clear.mp collected
  exact clear.2

end Manifest

namespace Generation

variable {schema : Schema} {config : Config} {first second moment : Moment}

/-- All that generating notices is a warning. -/
theorem warning_of_generated {artifacts : Artifacts}
    (generated : generate schema config moment = .ok artifacts) :
    ∀ warning ∈ artifacts.diagnostics, warning.severity = .warning := by
  obtain ⟨sdl, manifest, -, -, -, rfl⟩ := generate_eq_ok_iff.mp generated
  intro warning member
  obtain ⟨conflict, -, rfl⟩ := List.mem_map.mp member
  rfl

/-- Nothing that is generated strictly has warnings. -/
theorem diagnostics_of_strict {artifacts : Artifacts}
    (generated : generate schema (Command.strictly true config) moment = .ok artifacts) :
    artifacts.diagnostics = [] := by
  obtain ⟨sdl, manifest, -, -, built, rfl⟩ := generate_eq_ok_iff.mp generated
  exact List.map_eq_nil_iff.mpr (Manifest.conflicts_of_strict built)

/-- What is generated strictly is what is generated without warnings, at moments that exist. -/
theorem generate_strict_iff
    (moments : (Calendar.timestamp? first).isSome = (Calendar.timestamp? second).isSome) :
    (∃ artifacts, generate schema config first = .ok artifacts ∧ artifacts.diagnostics = []) ↔
      ∃ artifacts, generate schema (Command.strictly true config) second = .ok artifacts := by
  -- The schema document does not depend on the strictness, so that the manifests decide.
  have manifests :
      (∃ manifest, Manifest.build config.strictDataSources schema.operations first = .ok manifest ∧
        manifest.conflicts = []) ↔
      ∃ manifest, Manifest.build true schema.operations second = .ok manifest :=
    Manifest.build_strict_iff moments
  constructor
  · rintro ⟨artifacts, generated, clear⟩
    obtain ⟨sdl, manifest, written, passed, built, rfl⟩ := generate_eq_ok_iff.mp generated
    obtain ⟨strict, also⟩ := manifests.mp ⟨manifest, built, List.map_eq_nil_iff.mp clear⟩
    exact ⟨_, generate_eq_ok_iff.mpr ⟨sdl, strict, written, passed, also, rfl⟩⟩
  · rintro ⟨artifacts, generated⟩
    obtain ⟨sdl, manifest, written, passed, built, rfl⟩ := generate_eq_ok_iff.mp generated
    obtain ⟨lenient, also, clear⟩ := manifests.mpr ⟨manifest, built⟩
    exact ⟨_, generate_eq_ok_iff.mpr ⟨sdl, lenient, written, passed, also, rfl⟩,
      List.map_eq_nil_iff.mpr clear⟩

end Generation

namespace Diagnostic

/-- Nothing is more than a note if and only if nothing is left out and generating does not warn. -/
theorem anyWarning_append {report : Report} {warnings : List Diagnostic}
    (each : ∀ warning ∈ warnings, warning.severity = .warning) :
    anyWarning (report.diagnostics ++ warnings) = false ↔ report.excluded = 0 ∧ warnings = [] := by
  unfold anyWarning Report.excluded
  rw [List.any_append, Bool.or_eq_false_iff, List.length_eq_zero_iff, List.filter_eq_nil_iff]
  -- Every diagnostic of generating is a warning.
  have silent : (warnings.any fun warning => decide (warning.severity ≠ .info)) = false ↔
      warnings = [] := by
    cases warnings with
    | nil => simp
    | cons first others => simp [each first]
  rw [silent]
  simp

end Diagnostic

namespace Command

open Activity

variable {document : Found} {settings : Except Accident Found} {config : Config} {report : Report}
  {artifacts : Artifacts} {moment first second : Moment}

/-- Loading a document comes to its report. -/
theorem result_loadDocument_eq_ok :
    (loadDocument document).result = .ok report ↔
      Load.loadStored document.path document.stored = .ok report := by
  unfold loadDocument
  rw [result_bind_eq_ok]
  simp [result_log_eq_ok, result_attempt_eq_ok]

/-- Generating comes to what is generated. -/
theorem result_generateDocuments_eq_ok {schema : Schema} :
    (generateDocuments schema config moment).result = .ok artifacts ↔
      Generation.generate schema config moment = .ok artifacts := by
  unfold generateDocuments
  rw [result_bind_eq_ok]
  simp only [result_log_eq_ok, result_attempt_eq_ok, true_and, exists_const]
  cases Generation.generate schema config moment <;> simp [Except.mapError]

/-- Settings and a document that can be read. -/
structure Reads (document : Found) (settings : Except Accident Found) (config : Config)
    (report : Report) : Prop where
  configured : (loadConfig settings).result = .ok config
  loaded : Load.loadStored document.path document.stored = .ok report

/-- A check ends well if the diagnostics that it shows are no more than notes. -/
theorem result_check_eq_ok :
    (check document settings moment).result = .ok () ↔
      ∃ config report artifacts, Reads document settings config report ∧
        Generation.generate report.schema config moment = .ok artifacts ∧
        (showDiagnostics (report.diagnostics ++ artifacts.diagnostics)).result = .ok () ∧
        Diagnostic.anyWarning (report.diagnostics ++ artifacts.diagnostics) = false := by
  unfold check
  -- What is shown on the way is always shown, but for the diagnostics.
  simp only [result_bind_eq_ok, result_loadDocument_eq_ok, result_generateDocuments_eq_ok,
    result_showSummary, result_showVerdict_eq_ok, true_and, exists_const]
  constructor
  · rintro ⟨config, configured, report, loaded, artifacts, generated, ⟨⟩, shown, clear⟩
    exact ⟨config, report, artifacts, ⟨configured, loaded⟩, generated, shown, clear⟩
  · rintro ⟨config, report, artifacts, ⟨configured, loaded⟩, generated, shown, clear⟩
    exact ⟨config, configured, report, loaded, artifacts, generated, (), shown, clear⟩

/-- Documents are made if the diagnostics on the way are shown. -/
theorem result_produce_eq_ok {isStrict : Bool} {made : Config} :
    (produce document settings isStrict moment).result = .ok (made, artifacts) ↔
      ∃ config report, Reads document settings config report ∧ made = strictly isStrict config ∧
        Generation.generate report.schema made moment = .ok artifacts ∧
        (showDiagnostics (report.diagnostics ++ artifacts.diagnostics)).result = .ok () := by
  have header : (print "\nlambda-graphql - Generating AppSync artifacts\n").result = .ok () :=
    result_print (by decide)
  unfold produce
  simp only [result_bind_eq_ok, result_loadDocument_eq_ok, result_generateDocuments_eq_ok,
    result_showSummary, result_showEmptiness, result_pure_eq_ok, header,
    true_and, exists_const]
  -- All else that is printed on the way is shown, whatever it is.
  constructor
  · rintro ⟨config, configured, report, loaded, artifacts, generated, ⟨⟩, shown, made⟩
    obtain ⟨rfl, rfl⟩ := Prod.mk.inj made
    exact ⟨config, report, ⟨configured, loaded⟩, rfl, generated, shown⟩
  · rintro ⟨config, report, ⟨configured, loaded⟩, rfl, generated, shown⟩
    exact ⟨config, configured, report, loaded, artifacts, generated, (), shown, rfl⟩

/--
A check ends well exactly if strict documents can be made of the same files and nothing was left
out.
-/
theorem check_ok_iff
    (moments : (Calendar.timestamp? first).isSome = (Calendar.timestamp? second).isSome) :
    (check document settings first).result = .ok () ↔
      ∃ config report artifacts, Reads document settings config report ∧ report.excluded = 0 ∧
        (produce document settings true second).result = .ok (strictly true config, artifacts) := by
  rw [result_check_eq_ok]
  constructor
  · rintro ⟨config, report, artifacts, reads, generated, shown, clear⟩
    -- Without warnings the same diagnostics are shown of a strict run.
    obtain ⟨complete, silent⟩ := (Diagnostic.anyWarning_append
      (Generation.warning_of_generated generated)).mp clear
    obtain ⟨strict, also⟩ :=
      (Generation.generate_strict_iff moments).mp ⟨artifacts, generated, silent⟩
    rw [silent, ← Generation.diagnostics_of_strict also] at shown
    exact ⟨config, report, strict, reads, complete,
      result_produce_eq_ok.mpr ⟨config, report, reads, rfl, also, shown⟩⟩
  · rintro ⟨config, report, strict, reads, complete, made⟩
    obtain ⟨config', report', reads', same, also, shown⟩ := result_produce_eq_ok.mp made
    -- The settings and the document are read once.
    obtain rfl : config = config' := Except.ok.inj (reads.configured.symm.trans reads'.configured)
    obtain rfl : report = report' := Except.ok.inj (reads.loaded.symm.trans reads'.loaded)
    obtain ⟨artifacts, generated, silent⟩ :=
      (Generation.generate_strict_iff moments).mpr ⟨strict, also⟩
    rw [Generation.diagnostics_of_strict also, ← silent] at shown
    exact ⟨config, report, artifacts, reads, generated, shown,
      (Diagnostic.anyWarning_append (Generation.warning_of_generated generated)).mpr
        ⟨complete, silent⟩⟩

section Tree

variable {tree : FileTree} {surroundings : Surroundings} {arguments : List String}

/-- What stands at a path of a tree, unless the path cannot be looked at. -/
def foundAt (tree : FileTree) (path : Path) : Except Accident Found :=
  (tree.look path).map fun stored => ⟨path, stored⟩

/-- Looking at a path finds what stands there. -/
theorem run_findAt (tree : FileTree) (path : Path) :
    (findAt FileTree.disk path).run tree = (foundAt tree path, tree) := rfl

/-- A file that stands at a path of a tree. -/
def fileAt? (tree : FileTree) (path : Path) : Option Found :=
  match foundAt tree path with
  | .ok ⟨path, some (.file bytes)⟩ => some ⟨path, some (.file bytes)⟩
  | _ => none

/-- What is done with the file at a path is done if there is one; else the program is misused. -/
theorem run_withFile (tree : FileTree) (path : Path)
    (next : Found → StateM FileTree (Activity Unit)) :
    (withFile FileTree.disk path next).run tree =
      match fileAt? tree path with
      | some document => (next document).run tree
      | none => (Activity.stop .misuse, tree) := by
  unfold withFile fileAt? foundAt findAt
  -- Looking does not change the tree, so that what is done depends on what is found only.
  change StateT.run (do
    match (tree.look path).map fun stored => Found.mk path stored with
    | .ok ⟨path, some (.file bytes)⟩ => next ⟨path, some (.file bytes)⟩
    | _ => return Activity.stop .misuse) tree = _
  split <;> rfl

/-- How a command ends that was asked to do something with the file at a path. -/
structure Runs (tree : FileTree) (path : Path) (done : Activity Unit × FileTree)
    (isGood : Found → Prop) : Prop where
  /-- The tree is left as it is. -/
  unchanged : done.2 = tree
  /-- The command ends with zero if there is a file of which something holds. -/
  good : done.1.exitCode = 0 ↔ ∃ document, fileAt? tree path = some document ∧ isGood document

/-- A command whose activity leaves the tree ends as its activity does, if it has a file. -/
theorem Runs.of_withFile {path : Path} {threshold : Nat} {isGood : Found → Prop}
    {next : Found → StateM FileTree (Activity Unit)} {done : Found → Activity Unit}
    (leaves : ∀ document, (next document).run tree = (done document, tree))
    (ends : ∀ document, (done document).result = .ok () ↔ isGood document) :
    Runs tree path (((do
      let done ← withFile FileTree.disk path next
      return done.withThreshold threshold : StateM FileTree (Activity Unit))).run tree) isGood := by
  -- Taking notes away comes behind whatever is done with the file.
  have answered : ((do
      let done ← withFile FileTree.disk path next
      return done.withThreshold threshold : StateM FileTree (Activity Unit))).run tree =
      (((withFile FileTree.disk path next).run tree).1.withThreshold threshold,
        ((withFile FileTree.disk path next).run tree).2) := rfl
  rw [answered, run_withFile]
  cases found : fileAt? tree path with
  | none => exact ⟨rfl, by simp [exitCode_eq_zero, withThreshold, stop, found]⟩
  | some document =>
    -- The threshold takes notes away, and does not touch the result.
    have same : ((done document).withThreshold threshold).result = (done document).result := rfl
    simp only [leaves]
    exact ⟨rfl, by simp [exitCode_eq_zero, same, ends, found]⟩

/-- A check leaves the tree as it is, and ends with zero if there is a document that passes. -/
theorem run_check {request : CheckRequest}
    (asked : Request.ofArguments? arguments = some (.check request)) :
    Runs tree request.document ((run FileTree.disk surroundings arguments).run tree)
      fun document =>
        (check document (foundAt tree request.settings) surroundings.now).result = .ok () := by
  unfold run
  rw [asked]
  exact .of_withFile (fun document => rfl) fun document => Iff.rfl

/-- One activity and then one that is chosen leave the tree if the second one does. -/
theorem run_continueWith {α β : Type} (first : Activity α) (next : α → Activity β) :
    (continueWith first fun value => (pure (next value) : StateM FileTree (Activity β))).run tree =
      (first.bind next, tree) := by
  unfold continueWith Activity.bind
  cases first.result <;> rfl

/-- What a dry run does with a document, which leaves the tree as it is. -/
def rehearse (tree : FileTree) (surroundings : Surroundings) (request : GenerateRequest)
    (document : Found) : Activity Unit :=
  (produce document (foundAt tree request.settings) request.isStrict
    (request.moment.getD surroundings.now)).bind fun produced =>
      showPreview (Writing.documents surroundings.tags produced.2
        (directoryOf request.output produced.1) produced.1)

/-- Generating without storing anything rehearses. -/
theorem run_generate {request : GenerateRequest} (dry : request.isDryRun = true)
    (document : Found) :
    (generate FileTree.disk surroundings request document).run tree =
      (rehearse tree surroundings request document, tree) := by
  -- A dry run does no more with what is made than to show it.
  have delivered (produced : Config × Artifacts) :
      deliver FileTree.disk surroundings.tags request produced =
        pure (showPreview (Writing.documents surroundings.tags produced.2
          (directoryOf request.output produced.1) produced.1)) := by
    unfold deliver
    rw [dry]
    rfl
  unfold generate
  rw [StateT.run_bind, run_findAt, funext delivered]
  exact run_continueWith _ _

/-- A dry run leaves the tree as it is, and ends with zero if what it makes is shown. -/
theorem run_dryRun {request : GenerateRequest} (dry : request.isDryRun = true)
    (asked : Request.ofArguments? arguments = some (.generate request)) :
    Runs tree request.document ((run FileTree.disk surroundings arguments).run tree)
      fun document => ∃ config artifacts,
        (produce document (foundAt tree request.settings) request.isStrict
          (request.moment.getD surroundings.now)).result = .ok (config, artifacts) ∧
        (showPreview (Writing.documents surroundings.tags artifacts
          (directoryOf request.output config) config)).result = .ok () := by
  unfold run
  rw [asked]
  refine .of_withFile (run_generate dry) fun document => ?_
  exact result_bind_eq_ok.trans Prod.exists

end Tree

section Prediction

variable {tree : FileTree} {before after : Surroundings} {checking generating : List String}
  {checked : CheckRequest} {request : GenerateRequest} {directory : Path}

/-- A check, and a strict dry run on the same files. -/
structure Twin (checked : CheckRequest) (request : GenerateRequest) : Prop where
  document : checked.document = request.document
  settings : checked.settings = request.settings
  isStrict : request.isStrict = true
  isDryRun : request.isDryRun = true

/-- Whether there is a document at a path of which nothing is left out. -/
def IsComplete (tree : FileTree) (path : Path) : Prop :=
  ∃ document report, fileAt? tree path = some document ∧
    Load.loadStored document.path document.stored = .ok report ∧ report.excluded = 0

/-- A document that passes a check is complete. -/
theorem IsComplete.of_check (checks : Request.ofArguments? checking = some (.check checked))
    (passed : ((run FileTree.disk before checking).run tree).1.exitCode = 0) :
    IsComplete tree checked.document := by
  have ended : Runs tree checked.document ((run FileTree.disk before checking).run tree) _ :=
    run_check checks
  obtain ⟨document, found, good⟩ := ended.good.mp passed
  -- The same moment does for the strict documents that could be made.
  have same : (Calendar.timestamp? before.now).isSome = (Calendar.timestamp? before.now).isSome :=
    rfl
  obtain ⟨config, report, artifacts, reads, nothing, -⟩ := (check_ok_iff same).mp good
  exact ⟨document, report, found, reads.loaded, nothing⟩

/-- Whether the preview can show a file name of a directory. -/
def IsShown (directory : Path) (name : PlainName) : Prop :=
  ∀ tag text, (print (previewLine (Writing.documentFor directory name tag text))).result = .ok ()

/-- Whether the preview can show the names of both documents, which only brackets can prevent. -/
def NamesShown (tree : FileTree) (settings : Path) (directory : Path) : Prop :=
  ∀ config, (loadConfig (foundAt tree settings)).result = .ok config →
    ∀ name ∈ [config.schemaFileName, config.resolverFileName],
      '[' ∈ name.1.toList → IsShown directory name

/-- How a check that is done foretells what generating comes to. -/
structure Foretells (tree : FileTree) (request : GenerateRequest) (directory : Path)
    (check generated : Activity Unit × FileTree) : Prop where
  /-- Unless brackets are in the way, both end well together if nothing is left out. -/
  agrees : NamesShown tree request.settings directory →
    (check.1.exitCode = 0 ↔ generated.1.exitCode = 0 ∧ IsComplete tree request.document)
  /-- Whatever the names are, a check passes where generating ends well and leaves nothing out. -/
  passes : generated.1.exitCode = 0 → IsComplete tree request.document → check.1.exitCode = 0
  /-- Neither of them changes a file. -/
  unchanged : check.2 = tree ∧ generated.2 = tree

/-- The preview of a directory without brackets shows both documents if it can show their names. -/
theorem result_showPreview_documents {config : Config} {artifacts : Artifacts}
    {tags : Writing.Tags} (clear : '[' ∉ directory.toString.toList)
    (shown : ∀ name ∈ [config.schemaFileName, config.resolverFileName],
      '[' ∈ name.1.toList → IsShown directory name) :
    (showPreview (Writing.documents tags artifacts directory config)).result = .ok () := by
  have each : ∀ name ∈ [config.schemaFileName, config.resolverFileName],
      IsShown directory name := by
    intro name member
    -- Only a name with a bracket may be taken for marks.
    by_cases bracket : '[' ∈ name.1.toList
    · exact shown name member bracket
    · exact fun tag text => result_print (clear_previewLine clear bracket tag text)
  refine result_showPreview fun document member => ?_
  -- There is one document for the schema and one for the manifest.
  rcases List.mem_cons.mp member with rfl | member
  · exact each _ (.head _) _ _
  · rw [List.mem_singleton.mp member]
    exact each _ (.tail _ (.head _)) _ _

/-- A tree with a document and, next to it, settings that name the schema document. -/
def namedTree (name : String) : FileTree :=
  .ofList [
    (⟨"", ["api.yaml"]⟩,
      .file (Utf8.encode "types: [\x7bname: A, fields: [\x7bname: x, type: Int\x7d]\x7d]")),
    (⟨"", ["lambda-graphql.toml"]⟩,
      .file (Utf8.encode ("[generate]\nschema_file_name = \"" ++ name ++ "\"\n")))]

/-- Surroundings at noon of a day. -/
def noon : Surroundings :=
  ⟨"", ⟨⟨2024, 1, 1⟩, ⟨12, 0, 0, 0⟩, some 0⟩, none, ⟨"a", "b"⟩⟩

/-- What is asked of a strict dry run on the document. -/
def rehearsal : GenerateRequest where
  document := ⟨"", ["api.yaml"]⟩
  settings := ⟨"", ["lambda-graphql.toml"]⟩
  output := some ⟨"", ["out"]⟩
  moment := none
  isStrict := true
  isDryRun := true
  isVerbose := false

/-- A check of the document is asked for. -/
theorem ofArguments?_check : Request.ofArguments? ["check", "api.yaml"] =
    some (.check ⟨rehearsal.document, rehearsal.settings, false⟩) := by
  decide +kernel

end Prediction

end Command

end AppSync
