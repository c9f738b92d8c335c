import AppSync.Proofs.Command.Prediction
import AppSync.Proofs.Json.Shown
import AppSync.Proofs.Text.Size
import AppSync.Proofs.Writing

/-!
A dry run foretells the sizes of the files that the same run stores. It counts characters where the
files hold bytes: the size of a manifest is exact, and that of a schema only if the schema is ASCII.
-/

namespace AppSync

namespace Generation

variable {schema : Schema} {config : Config} {moment : Moment} {artifacts : Artifacts}

/-- The manifest of what is generated has as many characters as bytes. -/
theorem length_manifest (generated : generate schema config moment = .ok artifacts) :
    artifacts.manifest.length = (Utf8.encode artifacts.manifest).length := by
  obtain ⟨sdl, manifest, -, -, -, rfl⟩ := generate_eq_ok_iff.mp generated
  -- The text of a manifest is that of its document, and is ASCII whatever the document holds.
  have shown : Json.IsShownText manifest.text := Json.shown_indented 0 manifest.document
  exact (Utf8.length_le_encode manifest.text).2.mpr shown.small

end Generation

namespace Writing

variable {tree after : FileTree} {tags : Tags} {artifacts : Artifacts} {directory : Path}
  {config : Config}

/-- How files stand in which both documents are stored, the manifest last. -/
structure Holds (files : FileTree) (artifacts : Artifacts) (schema manifest : Path) : Prop where
  last : files.standing manifest = some (.file (Utf8.encode artifacts.manifest))
  /-- A schema with a path of its own is not replaced by the manifest. -/
  first : schema ≠ manifest → files.standing schema = some (.file (Utf8.encode artifacts.sdl))

/-- After a run that does not fail, the files hold both documents. -/
theorem holds_of_write {outcome : Except Trouble Written} (rooted : tree.IsRooted)
    (apart : tags.Apart config)
    (run : (write FileTree.disk tags artifacts directory config).run tree = (outcome, after))
    (succeeded : hasFailed outcome = false) :
    Holds after artifacts (directory.entry config.schemaFileName.1)
      (directory.entry config.resolverFileName.1) := by
  simp only [Path.entry_plainName]
  rcases write_steps rooted run with ⟨⟨trouble, rfl⟩, -⟩ | ⟨middle, makes, storing⟩
  · cases succeeded
  · have ending := store_ending (documents_sideBySide makes.rooted apart) storing
    rw [documentFor_eq apart.schema_plain, documentFor_eq apart.manifest_plain] at ending
    -- Of the ways in which storing ends, only one has not failed.
    cases ending with
    | untouched _ failed => cases succeeded.symm.trans failed
    | halfway => cases succeeded
    | complete stored first_stored =>
      refine ⟨stored, fun differ => first_stored fun key found => ?_⟩
      have names : config.schemaFileName.1 ≠ config.resolverFileName.1 := fun same =>
        differ (congrArg directory.below same)
      exact FileTree.locate_below_apart makes.rooted names found

end Writing

namespace Command

open Activity

section Lines

variable {α β : Type}

/-- An activity that goes on shows its lines before those of the next one. -/
theorem Activity.lines_bind {first : Activity α} {next : α → Activity β} {value : α}
    (came : first.result = .ok value) :
    (first >>= next).lines = first.lines ++ (next value).lines := by
  change (Activity.bind first next).lines = _
  unfold Activity.bind
  rw [came]

/-- The line that gives a file its size. -/
def sizeLine (file : Path × Nat) : String :=
  s!"  - {file.1.toString} ({file.2} bytes)"

/-- Whether an activity ends by giving sizes to files. -/
def Announces (activity : Activity Unit) (files : List (Path × Nat)) : Prop :=
  ∃ before, (printAll (files.map sizeLine)).result = .ok () ∧
    activity.lines = before ++ (printAll (files.map sizeLine)).lines

/-- A preview that is shown gives each document the number of its characters. -/
theorem announces_showPreview {documents : List Writing.Document}
    (shown : (showPreview documents).result = .ok ()) :
    Announces (showPreview documents)
      (documents.map fun document => (document.target, document.text.length)) := by
  obtain ⟨⟨⟩, first, rest⟩ := result_bind_eq_ok.mp shown
  obtain ⟨⟨⟩, second, last⟩ := result_bind_eq_ok.mp rest
  -- Two lines are shown before, and then there is one for each document.
  have lines : (documents.map fun document => (document.target, document.text.length)).map
      sizeLine = documents.map previewLine := by
    rw [List.map_map]
    rfl
  unfold Announces
  rw [lines]
  refine ⟨(print "DRY RUN - No files will be written\n").lines ++ (print "Would generate:").lines,
    last, ?_⟩
  unfold showPreview
  rw [lines_bind first, lines_bind second, List.append_assoc]

/-- What is shown of documents that were written ends well only if writing has not failed. -/
theorem hasFailed_of_showWritten {directory : Path} {written : Except Trouble Written}
    (shown : (showWritten directory written).result = .ok ()) :
    Writing.hasFailed written = false := by
  obtain ⟨found, attempted, rest⟩ := result_bind_eq_ok.mp shown
  obtain ⟨⟨⟩, -, last⟩ := result_bind_eq_ok.mp rest
  rw [result_attempt_eq_ok.mp attempted]
  cases failed : found.hasFailed with
  | false => exact failed
  | true =>
    -- A failure is shown in two lines, and then the activity stops.
    simp [failed, showFailure, result_bind_eq_ok, stop] at last

end Lines

section Runs

variable {tree : FileTree} {surroundings : Surroundings} {arguments : List String}
  {request : GenerateRequest}

/-- A command that ends well has done something with the file at a path. -/
structure Answers (tree : FileTree) (path : Path)
    (next : Found → StateM FileTree (Activity Unit)) (done : Activity Unit × FileTree)
    (document : Found) : Prop where
  found : fileAt? tree path = some document
  result : ((next document).run tree).1.result = .ok ()
  lines : done.1.lines = ((next document).run tree).1.lines
  files : done.2 = ((next document).run tree).2

/-- A run that generates and ends well does so with the file at the path of the document. -/
theorem exists_answers (asked : Request.ofArguments? arguments = some (.generate request))
    (ended : ((run FileTree.disk surroundings arguments).run tree).1.exitCode = 0) :
    ∃ document, Answers tree request.document (generate FileTree.disk surroundings request)
      ((run FileTree.disk surroundings arguments).run tree) document := by
  -- Taking notes away comes behind what is done with the file.
  have answered : (run FileTree.disk surroundings arguments).run tree =
      (((withFile FileTree.disk request.document
          (generate FileTree.disk surroundings request)).run tree).1.withThreshold
            (thresholdOf surroundings request.isVerbose),
        ((withFile FileTree.disk request.document
          (generate FileTree.disk surroundings request)).run tree).2) := by
    unfold run
    rw [asked]
    rfl
  rw [answered, run_withFile] at ended ⊢
  obtain ⟨⟨⟩, result⟩ := exitCode_eq_zero.mp ended
  cases found : fileAt? tree request.document with
  | none =>
    rw [found] at result
    cases result
  | some document =>
    rw [found] at result
    exact ⟨document, found, result, rfl, rfl⟩

/-- A dry run delivers a preview. -/
theorem run_deliver_dry {tags : Writing.Tags} {config : Config} {artifacts : Artifacts}
    (dry : request.isDryRun = true) :
    (deliver FileTree.disk tags request (config, artifacts)).run tree =
      (showPreview (Writing.documents tags artifacts (directoryOf request.output config) config),
        tree) := by
  unfold deliver
  rw [dry]
  rfl

/-- Any other run delivers files, and ends well only if writing them has not failed. -/
theorem run_deliver_stored {tags : Writing.Tags} {config : Config} {artifacts : Artifacts}
    (stores : request.isDryRun = false)
    (ended : ((deliver FileTree.disk tags request (config, artifacts)).run tree).1.result =
      .ok ()) :
    ∃ outcome, Writing.hasFailed outcome = false ∧
      (Writing.write FileTree.disk tags artifacts (directoryOf request.output config) config).run
        tree = (outcome, ((deliver FileTree.disk tags request (config, artifacts)).run tree).2) := by
  -- The tree is left as writing leaves it; the outcome is only shown.
  have steps : (deliver FileTree.disk tags request (config, artifacts)).run tree =
      (showWritten (directoryOf request.output config)
        ((Writing.write FileTree.disk tags artifacts (directoryOf request.output config)
          config).run tree).1,
        ((Writing.write FileTree.disk tags artifacts (directoryOf request.output config)
          config).run tree).2) := by
    unfold deliver
    rw [stores]
    rfl
  rw [steps] at ended ⊢
  exact ⟨_, hasFailed_of_showWritten ended, rfl⟩

/-- An activity that is gone on with from the tree has a result only if both parts have one. -/
theorem exists_of_continueWith {α : Type} {first : Activity α}
    {next : α → StateM FileTree (Activity Unit)}
    (ended : ((continueWith first next).run tree).1.result = .ok ()) :
    ∃ value, first.result = .ok value ∧ ((next value).run tree).1.result = .ok () ∧
      (continueWith first next).run tree =
        (first >>= fun _ => ((next value).run tree).1, ((next value).run tree).2) := by
  unfold continueWith at ended ⊢
  -- Nothing is gone on with unless the first part has a result.
  cases came : first.result with
  | error ending =>
    rw [came] at ended
    cases ended
  | ok value =>
    rw [came] at ended
    have bound : (first >>= fun _ => ((next value).run tree).1).result = .ok () := ended
    obtain ⟨_, -, last⟩ := result_bind_eq_ok.mp bound
    exact ⟨value, rfl, last, rfl⟩

/-- Settings that are made stricter keep their tags apart. -/
theorem apart_strictly {tags : Writing.Tags} {config : Config} (apart : tags.Apart config)
    (isStrict : Bool) : tags.Apart (strictly isStrict config) := by
  cases isStrict with
  | false => exact apart
  | true => exact ⟨apart.schema_plain, apart.manifest_plain, apart.schema_free, apart.manifest_free⟩

/-- What a run makes of the files in a tree before anything is delivered. -/
def made? (tree : FileTree) (request : GenerateRequest) (now : Moment) :
    Option (Config × Artifacts) := do
  let document ← fileAt? tree request.document
  let settings := foundAt tree request.settings
  (produce document settings request.isStrict (request.moment.getD now)).result.toOption

/-- Something is made if there is a document of which it can be produced. -/
theorem made?_eq_some {now : Moment} {config : Config} {artifacts : Artifacts} :
    made? tree request now = some (config, artifacts) ↔
      ∃ document, fileAt? tree request.document = some document ∧
        (produce document (foundAt tree request.settings) request.isStrict
          (request.moment.getD now)).result = .ok (config, artifacts) := by
  unfold made?
  cases fileAt? tree request.document with
  | none => simp
  | some document =>
    cases produced : (produce document (foundAt tree request.settings) request.isStrict
      (request.moment.getD now)).result <;> simp [produced, Except.toOption]

/-- A run that delivers what was made, and what comes of delivering it. -/
structure Delivers (done delivered : Activity Unit × FileTree) : Prop where
  result : delivered.1.result = .ok ()
  files : done.2 = delivered.2
  /-- What is shown in delivering comes last. -/
  lines : ∃ front, done.1.lines = front ++ delivered.1.lines

/-- A run that generates and ends well delivers what was made. -/
theorem exists_delivers (asked : Request.ofArguments? arguments = some (.generate request))
    (ended : ((run FileTree.disk surroundings arguments).run tree).1.exitCode = 0) :
    ∃ config artifacts, made? tree request surroundings.now = some (config, artifacts) ∧
      Delivers ((run FileTree.disk surroundings arguments).run tree)
        ((deliver FileTree.disk surroundings.tags request (config, artifacts)).run tree) := by
  obtain ⟨document, answers⟩ := exists_answers asked ended
  -- Once the settings are found, only what delivers reads or changes the tree.
  have steps : (generate FileTree.disk surroundings request document).run tree =
      (continueWith (produce document (foundAt tree request.settings) request.isStrict
        (request.moment.getD surroundings.now))
          (deliver FileTree.disk surroundings.tags request)).run tree := by
    unfold generate
    rw [StateT.run_bind, run_findAt]
    rfl
  have result := answers.result
  rw [steps] at result
  obtain ⟨⟨config, artifacts⟩, made, delivered, whole⟩ := exists_of_continueWith result
  rw [← steps] at whole
  refine ⟨config, artifacts, made?_eq_some.mpr ⟨document, answers.found, made⟩, delivered, ?_, ?_⟩
  · rw [answers.files, whole]
  · rw [answers.lines, whole]
    exact ⟨_, lines_bind made⟩

/-- A dry run that ends well announces the documents that it makes. -/
theorem exists_preview (asked : Request.ofArguments? arguments = some (.generate request))
    (dry : request.isDryRun = true)
    (ended : ((run FileTree.disk surroundings arguments).run tree).1.exitCode = 0) :
    ∃ config artifacts, made? tree request surroundings.now = some (config, artifacts) ∧
      Announces ((run FileTree.disk surroundings arguments).run tree).1
        [((directoryOf request.output config).entry config.schemaFileName.1,
            artifacts.sdl.length),
          ((directoryOf request.output config).entry config.resolverFileName.1,
            artifacts.manifest.length)] := by
  obtain ⟨config, artifacts, made, delivers⟩ := exists_delivers asked ended
  rw [run_deliver_dry dry] at delivers
  obtain ⟨front, lines⟩ := delivers.lines
  obtain ⟨between, printed, shown⟩ := announces_showPreview delivers.result
  -- The lines on the documents are the last ones of those that end the run.
  refine ⟨config, artifacts, made, front ++ between, printed, ?_⟩
  rw [lines, shown, ← List.append_assoc]
  rfl

/-- Any other run that ends well stores the documents that it makes. -/
theorem exists_stored (rooted : tree.IsRooted)
    (asked : Request.ofArguments? arguments = some (.generate request))
    (stores : request.isDryRun = false)
    (apart : ∀ config, (loadConfig (foundAt tree request.settings)).result = .ok config →
      surroundings.tags.Apart config)
    (ended : ((run FileTree.disk surroundings arguments).run tree).1.exitCode = 0) :
    ∃ config artifacts, made? tree request surroundings.now = some (config, artifacts) ∧
      artifacts.manifest.length = (Utf8.encode artifacts.manifest).length ∧
      Writing.Holds ((run FileTree.disk surroundings arguments).run tree).2 artifacts
        ((directoryOf request.output config).entry config.schemaFileName.1)
        ((directoryOf request.output config).entry config.resolverFileName.1) := by
  obtain ⟨config, artifacts, made, delivers⟩ := exists_delivers asked ended
  obtain ⟨outcome, succeeded, written⟩ := run_deliver_stored stores delivers.result
  rw [← delivers.files] at written
  -- The settings are those that were read, or stricter.
  obtain ⟨document, -, produced⟩ := made?_eq_some.mp made
  obtain ⟨loaded, report, reads, rfl, generated, -⟩ := result_produce_eq_ok.mp produced
  have kept := apart_strictly (apart loaded reads.configured) request.isStrict
  exact ⟨_, artifacts, made, Generation.length_manifest generated,
    Writing.holds_of_write rooted kept written succeeded⟩

end Runs

section Sizes

variable {tree : FileTree} {before after : Surroundings} {previewing storing : List String}
  {request : GenerateRequest}

/-- How a preview compares with the files that are stored under the same settings. -/
structure Foresees (preview : Activity Unit) (files : FileTree) (artifacts : Artifacts)
    (schema manifest : Path) : Prop where
  /-- Each document is given the number of its characters. -/
  announced :
    Announces preview [(schema, artifacts.sdl.length), (manifest, artifacts.manifest.length)]
  /-- The file of the manifest has the size that is announced. -/
  manifest_size : ∃ bytes, files.standing manifest = some (.file bytes) ∧
    bytes = Utf8.encode artifacts.manifest ∧ artifacts.manifest.length = bytes.length
  /-- The file of the schema may be larger, and has the size that is announced if it is ASCII. -/
  schema_size : schema ≠ manifest → ∃ bytes, files.standing schema = some (.file bytes) ∧
    bytes = Utf8.encode artifacts.sdl ∧ artifacts.sdl.length ≤ bytes.length ∧
      (artifacts.sdl.length = bytes.length ↔ ∀ c ∈ artifacts.sdl.toList, c.toNat < 0x80)

/--
Where a dry run and the same run without it both end well, the dry run announces the size of the
manifest, and a size of the schema that is too small by what its characters beyond ASCII take.
-/
theorem preview_foresees (rooted : tree.IsRooted)
    (previews : Request.ofArguments? previewing = some (.generate request))
    (dry : request.isDryRun = true)
    (stores : Request.ofArguments? storing = some (.generate { request with isDryRun := false }))
    (moments : request.moment.getD before.now = request.moment.getD after.now)
    (apart : ∀ config, (loadConfig (foundAt tree request.settings)).result = .ok config →
      after.tags.Apart config)
    (previewed : ((run FileTree.disk before previewing).run tree).1.exitCode = 0)
    (stored : ((run FileTree.disk after storing).run tree).1.exitCode = 0) :
    ∃ config artifacts, made? tree request after.now = some (config, artifacts) ∧
      Foresees ((run FileTree.disk before previewing).run tree).1
        ((run FileTree.disk after storing).run tree).2 artifacts
        ((directoryOf request.output config).entry config.schemaFileName.1)
        ((directoryOf request.output config).entry config.resolverFileName.1) := by
  obtain ⟨config, artifacts, shown, announced⟩ := exists_preview previews dry previewed
  obtain ⟨config', artifacts', made, exact, holds⟩ :=
    exists_stored rooted stores rfl apart stored
  -- Both runs make the same documents of the same files, at the same moment.
  have same : made? tree request before.now = made? tree request after.now := by
    simp only [made?, moments]
  obtain ⟨rfl, rfl⟩ := Prod.mk.inj (Option.some.inj ((shown.symm.trans same).trans made))
  exact ⟨config, artifacts, made, announced, ⟨_, holds.last, rfl, exact⟩,
    fun differ => ⟨_, holds.first differ, rfl, Utf8.length_le_encode artifacts.sdl⟩⟩

/-- A tree with a document in which an accent stands. -/
def accentTree : FileTree :=
  .ofList [(⟨"", ["api.yaml"]⟩, .file (Utf8.encode
    "types: [\x7bname: A, description: café, fields: [\x7bname: x, type: Int\x7d]\x7d]"))]

/-- Without settings the tags of the surroundings are apart. -/
theorem accentTree_apart (config : Config)
    (found : (loadConfig (foundAt accentTree rehearsal.settings)).result = .ok config) :
    noon.tags.Apart config := by
  have loaded : (loadConfig (foundAt accentTree rehearsal.settings)).result = .ok {} := by
    decide +kernel
  obtain rfl := Except.ok.inj (loaded.symm.trans found)
  exact ⟨by decide +kernel, by decide +kernel, by decide +kernel, by decide +kernel⟩

/-- A dry run on the tree. -/
def accentPreview : Activity Unit × FileTree :=
  (run FileTree.disk noon ["generate", "api.yaml", "--strict", "--dry-run", "-o", "out"]).run
    accentTree

/-- The same run, in which the documents are stored. -/
def accentStored : Activity Unit × FileTree :=
  (run FileTree.disk noon ["generate", "api.yaml", "--strict", "-o", "out"]).run accentTree

/-- The arguments of the dry run ask for a rehearsal. -/
theorem ofArguments?_preview :
    Request.ofArguments? ["generate", "api.yaml", "--strict", "--dry-run", "-o", "out"] =
      some (.generate rehearsal) := by
  decide +kernel

/-- The arguments of the other run ask for the same without a rehearsal. -/
theorem ofArguments?_stored :
    Request.ofArguments? ["generate", "api.yaml", "--strict", "-o", "out"] =
      some (.generate { rehearsal with isDryRun := false }) := by
  decide +kernel

/-- Both runs end well. -/
theorem accent_exitCode : accentPreview.1.exitCode = 0 ∧ accentStored.1.exitCode = 0 :=
  ⟨by decide +kernel, by decide +kernel⟩

/-- The dry run foresees the files of the tree. -/
theorem preview_foresees_accent :
    ∃ config artifacts, made? accentTree rehearsal noon.now = some (config, artifacts) ∧
      Foresees accentPreview.1 accentStored.2 artifacts
        ((directoryOf rehearsal.output config).entry config.schemaFileName.1)
        ((directoryOf rehearsal.output config).entry config.resolverFileName.1) :=
  preview_foresees (by decide +kernel) ofArguments?_preview rfl ofArguments?_stored rfl
    accentTree_apart accent_exitCode.1 accent_exitCode.2

/-- What is made of the document: a schema of 32 characters. -/
theorem made?_accentTree : ((made? accentTree rehearsal noon.now).map fun made =>
    (made.1, made.2.sdl, made.2.manifest.length)) =
      some ({ strictDataSources := true }, "\"\"\"\ncafé\n\"\"\"\ntype A \x7b\n  x: Int\n\x7d", 190) := by
  decide +kernel

/-- The file of the schema is larger than the dry run announces, since an accent takes two bytes. -/
theorem preview_accent : accentPreview.1.exitCode = 0 ∧ accentStored.1.exitCode = 0 ∧
    Announces accentPreview.1
      [(⟨"", ["out", "schema.graphql"]⟩, 32), (⟨"", ["out", "resolvers.json"]⟩, 190)] ∧
    ∃ bytes, accentStored.2.standing ⟨"", ["out", "schema.graphql"]⟩ = some (.file bytes) ∧
      bytes.length = 33 := by
  obtain ⟨config, artifacts, made, announced⟩ :=
    exists_preview ofArguments?_preview rfl accent_exitCode.1
  obtain ⟨config', artifacts', made', -, holds⟩ := exists_stored (by decide +kernel)
    ofArguments?_stored rfl accentTree_apart accent_exitCode.2
  have same : made? accentTree rehearsal noon.now = some (config', artifacts') := made'
  obtain ⟨rfl, rfl⟩ := Prod.mk.inj (Option.some.inj (made.symm.trans same))
  -- What was made is known, and with it the sizes.
  have known := made?_accentTree
  rw [made] at known
  obtain ⟨rfl, rest⟩ := Prod.mk.inj (Option.some.inj known)
  obtain ⟨sdl, size⟩ := Prod.mk.inj rest
  have length : artifacts.sdl.length = 32 := by
    rw [sdl]
    decide +kernel
  have bytes : (Utf8.encode artifacts.sdl).length = 33 := by
    rw [sdl]
    decide +kernel
  rw [length, size] at announced
  exact ⟨accent_exitCode.1, accent_exitCode.2, announced, _, holds.first (by decide +kernel), bytes⟩

end Sizes

end Command

end AppSync
