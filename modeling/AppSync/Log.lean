import AppSync.Text.Half
import AppSync.Text.Keyword

/-! Notes for a log, each with its source and its level, and which levels are shown. -/

namespace AppSync.Log

/-- How much a note matters. -/
inductive Level where
  | debug
  | info
  | warning
deriving DecidableEq, Repr

/-- The word for a level. -/
def Level.word : Level → String
  | debug => "DEBUG"
  | info => "INFO"
  | warning => "WARNING"

/-- The number of a level. -/
def Level.number : Level → Nat
  | debug => 10
  | info => 20
  | warning => 30

/-- The parts of the program that write notes. -/
inductive Origin where
  | loading
  | resolving
  | schemaPrinting
  | manifestBuilding
  | generation
  | writing
deriving DecidableEq, Repr

/-- The name of a part. -/
def Origin.name : Origin → String
  | loading => "lambda_graphql.core.loader"
  | resolving => "lambda_graphql.core.type_resolver"
  | schemaPrinting => "lambda_graphql.generators.sdl"
  | manifestBuilding => "lambda_graphql.generators.manifest"
  | generation => "lambda_graphql.generators.pipeline"
  | writing => "lambda_graphql.writer"

/-- A note. -/
structure Note where
  origin : Origin
  level : Level
  message : String
deriving DecidableEq, Repr

/-- Source, level and message, in which halves of characters are escaped. -/
def Note.text (note : Note) : String :=
  note.origin.name ++ " - " ++ note.level.word ++ " - " ++ Text.escapeHalves note.message

/-- The numbers that words for the least level to be shown stand for. -/
def thresholds : List (String × Nat) :=
  [("CRITICAL", 50), ("FATAL", 50), ("ERROR", 40), ("WARN", 30), ("WARNING", 30), ("INFO", 20),
    ("DEBUG", 10), ("NOTSET", 0)]

/-- The number of the least level to be shown; other words and no word ask for warnings. -/
def threshold (isVerbose : Bool) (setting : Option String) : Nat :=
  if isVerbose then Level.debug.number
  else
    let word := Text.upperCase (setting.getD Level.warning.word)
    ((thresholds.find? fun entry => entry.1 = word).map (·.2)).getD Level.warning.number

/-- The notes that are shown. -/
def shown (threshold : Nat) (notes : List Note) : List Note :=
  notes.filter fun note => threshold ≤ note.level.number

end AppSync.Log
