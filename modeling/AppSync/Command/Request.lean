import AppSync.Calendar.Written
import AppSync.Command.Arguments
import AppSync.Config.File

/-! Requests: what the arguments of the program ask for. -/

namespace AppSync.Command

/-- Options of the program itself. -/
inductive GeneralOption where
  | version
  | help
deriving DecidableEq, Repr

/-- Options of its commands. -/
inductive CommandOption where
  | output
  | settings
  | timestamp
  | strict
  | dryRun
  | verbose
  | help
deriving DecidableEq, Repr

/-- How the program's own options are written. -/
def generalForms : List (OptionForm GeneralOption) :=
  [⟨.version, "--version", some 'V', false⟩, ⟨.help, "--help", none, false⟩]

/-- The option that every command has. -/
def helpForm : OptionForm CommandOption := ⟨.help, "--help", none, false⟩

/-- The options of a check. -/
def checkForms : List (OptionForm CommandOption) :=
  [⟨.settings, "--config", some 'c', true⟩, ⟨.verbose, "--verbose", some 'v', false⟩, helpForm]

/-- The options of generating. -/
def generateForms : List (OptionForm CommandOption) :=
  [⟨.output, "--output", some 'o', true⟩, ⟨.timestamp, "--timestamp", none, true⟩,
    ⟨.strict, "--strict", none, false⟩, ⟨.dryRun, "--dry-run", some 'n', false⟩] ++ checkForms

/-- What is to be checked: a document under settings. -/
structure CheckRequest where
  document : Path
  settings : Path
  isVerbose : Bool
deriving DecidableEq, Repr

/-- What is to be generated, and how. -/
structure GenerateRequest where
  document : Path
  settings : Path
  output : Option Path
  moment : Option Moment
  isStrict : Bool
  isDryRun : Bool
  isVerbose : Bool
deriving DecidableEq, Repr

/-- What the program is asked to do. -/
inductive Request where
  | help
  | version
  | scalars
  | check (request : CheckRequest)
  | generate (request : GenerateRequest)
deriving DecidableEq, Repr

namespace Request

/-- The path of a document; there has to be one, and it cannot name a directory. -/
def documentOf? (operands : List String) : Option Path :=
  match operands with
  | [text] => if Path.namesDirectory text then none else some (Path.ofString text)
  | _ => none

/-- The path of settings that are given, or else of those next to a document. -/
def settingsOf (given : Given CommandOption) (document : Path) : Path :=
  match given.value? .settings with
  | some text => Path.ofString text
  | none => document.parent.entry Config.fileName

/-- A request to check. -/
def ofCheck? (given : Given CommandOption) : Option Request := do
  let document ← documentOf? given.operands
  return .check ⟨document, settingsOf given document, given.has .verbose⟩

/-- The moment that is given, if any; it has to be written as one. -/
def momentOf? (given : Given CommandOption) : Option (Option Moment) :=
  match given.value? .timestamp with
  | none => some none
  | some text => (Calendar.written? text).map some

/-- A request to generate. -/
def ofGenerate? (given : Given CommandOption) : Option Request := do
  let document ← documentOf? given.operands
  let moment ← momentOf? given
  return .generate {
    document, moment
    settings := settingsOf given document
    output := (given.value? .output).map Path.ofString
    isStrict := given.has .strict
    isDryRun := given.has .dryRun
    isVerbose := given.has .verbose }

/-- A request to list the scalars. -/
def ofScalars? (given : Given CommandOption) : Option Request :=
  if given.operands.isEmpty then some .scalars else none

/-- A request of a command, unless help is asked for, whatever else is. -/
def unlessHelp (read : Given CommandOption → Option Request) (given : Given CommandOption) :
    Option Request :=
  if given.has .help then some .help else read given

/-- What the commands of the program do. -/
inductive Job where
  | generate
  | check
  | scalars
deriving DecidableEq, Repr

/-- What the command of a name does. -/
def jobOf? : String → Option Job
  | "generate" => some .generate
  | "check" => some .check
  | "scalars" => some .scalars
  | _ => none

/-- The request of a command with arguments. -/
def ofJob? (arguments : List String) : Job → Option Request
  | .generate => (readArguments generateForms false arguments).bind (unlessHelp ofGenerate?)
  | .check => (readArguments checkForms false arguments).bind (unlessHelp ofCheck?)
  | .scalars => (readArguments [helpForm] false arguments).bind (unlessHelp ofScalars?)

/-- The request of the program's own options; the first one counts. -/
def ofGeneral? : List (GeneralOption × String) → Option Request
  | (.version, _) :: _ => some .version
  | (.help, _) :: _ => some .help
  | [] => none

/-- The request of operands: a command and its arguments, or else an option of the program. -/
def ofOperands? : List String → Option Request
  | [] => none
  | name :: others =>
    match jobOf? name with
    | some job => ofJob? others job
    | none => (readArguments generalForms true (name :: others)).bind fun given =>
        ofGeneral? given.options

/-- The request that arguments make; an option of the program goes before a command. -/
def ofArguments? (arguments : List String) : Option Request := do
  let given ← readArguments generalForms true arguments
  match ofGeneral? given.options with
  | some request => return request
  | none => ofOperands? given.operands

end Request

end AppSync.Command
