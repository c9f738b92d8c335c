import AppSync.Command.Display
import AppSync.Command.Request
import AppSync.Generation.Notes
import AppSync.Load.Notes

/-! Runs of the program: each request is answered by what is shown, noted and stored. -/

namespace AppSync.Command

/-- What a run is told about the world, apart from its arguments and its disk. -/
structure Surroundings where
  /-- What the program runs on. -/
  platform : String
  now : Moment
  /-- The least level of notes that is asked for. -/
  logSetting : Option String
  tags : Writing.Tags

/-- A path and what stands there. -/
structure Found where
  path : Path
  stored : Option Stored

/-- Settings under which a document is generated; their path may be too long to be looked at. -/
def loadConfig (settings : Except Accident Found) : Activity Config :=
  Activity.attempt do
    let found ← settings.mapError .accident
    Config.ofStored found.path found.stored

/-- Loads a document and notes what happens. -/
def loadDocument (document : Found) : Activity Report := do
  Activity.log (Load.storedNotes document.path document.stored)
  Activity.attempt (Load.loadStored document.path document.stored)

/-- Generates the documents of a schema and notes what happens. -/
def generateDocuments (schema : Schema) (config : Config) (moment : Moment) :
    Activity Artifacts := do
  Activity.log (Generation.notes schema config moment)
  Activity.attempt ((Generation.generate schema config moment).mapError .fault)

/-- Loads and generates without storing anything, and shows every diagnostic. -/
def check (document : Found) (settings : Except Accident Found) (moment : Moment) :
    Activity Unit := do
  let config ← loadConfig settings
  let report ← loadDocument document
  let artifacts ← generateDocuments report.schema config moment
  showSummary report
  let diagnostics := report.diagnostics ++ artifacts.diagnostics
  showDiagnostics diagnostics
  showVerdict diagnostics

/-- Settings that are as strict as asked for. -/
def strictly (isStrict : Bool) (config : Config) : Config :=
  if isStrict then { config with strictDataSources := true } else config

/-- Loads and generates up to where documents are stored. -/
def produce (document : Found) (settings : Except Accident Found) (isStrict : Bool)
    (moment : Moment) : Activity (Config × Artifacts) := do
  Activity.print "\nlambda-graphql - Generating AppSync artifacts\n"
  let config := strictly isStrict (← loadConfig settings)
  let report ← loadDocument document
  showSummary report
  showEmptiness report
  let artifacts ← generateDocuments report.schema config moment
  showDiagnostics (report.diagnostics ++ artifacts.diagnostics)
  return (config, artifacts)

/-- The directory that documents go to. -/
def directoryOf (output : Option Path) (config : Config) : Path :=
  output.getD (Path.ofString config.outputDirectory)

variable {m : Type → Type} [Monad m]

/-- Looks at a path. -/
def findAt (disk : Disk m) (path : Path) : m (Except Accident Found) := do
  return (← disk.look path).map fun stored => ⟨path, stored⟩

/-- Shows which documents would be stored, or stores them and shows which were. -/
def deliver (disk : Disk m) (tags : Writing.Tags) (request : GenerateRequest)
    (produced : Config × Artifacts) : m (Activity Unit) := do
  let (config, artifacts) := produced
  let directory := directoryOf request.output config
  if request.isDryRun then
    return showPreview (Writing.documents tags artifacts directory config)
  else return showWritten directory (← Writing.write disk tags artifacts directory config)

/-- Goes on with what an activity brought, unless it has ended early. -/
def continueWith {α β : Type} (first : Activity α) (next : α → m (Activity β)) :
    m (Activity β) := do
  match first.result with
  | .error ending => return ⟨first.lines, first.notes, .error ending⟩
  | .ok value =>
    let second ← next value
    return first.bind fun _ => second

/-- Answers a request to generate a document that is there. -/
def generate (disk : Disk m) (surroundings : Surroundings) (request : GenerateRequest)
    (document : Found) : m (Activity Unit) := do
  let settings ← findAt disk request.settings
  let moment := request.moment.getD surroundings.now
  continueWith (produce document settings request.isStrict moment)
    (deliver disk surroundings.tags request)

/-- Goes on with the file at a path; where none is, the program is misused. -/
def withFile (disk : Disk m) (path : Path) (next : Found → m (Activity Unit)) :
    m (Activity Unit) := do
  match ← findAt disk path with
  | .ok ⟨path, some (.file bytes)⟩ => next ⟨path, some (.file bytes)⟩
  | _ => return Activity.stop .misuse

/-- The least number of a level that is shown. -/
def thresholdOf (surroundings : Surroundings) (isVerbose : Bool) : Nat :=
  Log.threshold isVerbose surroundings.logSetting

/-- Answers a request. -/
def answer (disk : Disk m) (surroundings : Surroundings) : Request → m (Activity Unit)
  | .help => return showUsage
  | .version => return showVersion surroundings.platform
  | .scalars => return showScalars
  | .check request => do
    let done ← withFile disk request.document fun document => do
      return check document (← findAt disk request.settings) surroundings.now
    return done.withThreshold (thresholdOf surroundings request.isVerbose)
  | .generate request => do
    let done ← withFile disk request.document (generate disk surroundings request)
    return done.withThreshold (thresholdOf surroundings request.isVerbose)

/-- Runs the program with arguments. -/
def run (disk : Disk m) (surroundings : Surroundings) (arguments : List String) :
    m (Activity Unit) :=
  match Request.ofArguments? arguments with
  | some request => answer disk surroundings request
  | none => return Activity.stop .misuse

end AppSync.Command
