import AppSync.Config.Basic
import AppSync.Toml.Document
import AppSync.Trouble

/-! Settings in a file: a table of a TOML text. -/

namespace AppSync.Config

/-- The name of the file that settings are looked for in. -/
def fileName : String := "lambda-graphql.toml"

/-- The table of settings in a file. -/
def tableName : String := "generate"

/-- A fault of a file with settings. -/
def fault (path : Path) (location : Option String) (message : String) : Trouble :=
  .fault ⟨.config, message, some ⟨some path, location, none⟩⟩

/-- The tables of a text with settings. -/
def readTables (path : Path) (text : String) : Except Trouble Entries :=
  match Toml.read text with
  | .ok entries => .ok entries
  | .error (.fault problem) =>
    .error (fault path none ("Invalid TOML: " ++ Toml.faultMessage text problem))
  | .error (.accident accident) => .error (.accident accident)

/-- The problems of settings; each one is behind its place, even if that is empty. -/
def summary (problems : List Problem) : String :=
  String.intercalate "; "
    (problems.map fun problem => problem.location ++ ": " ++ problem.cause.message)

/-- Settings of a table; an absent table and an empty value leave everything at its default. -/
def ofTables (path : Path) (tables : Entries) : Except Trouble Config :=
  match Entries.get? tableName tables with
  | none => .ok {}
  | some value =>
    if !value.isTruthy then .ok {}
    else
      match value with
      | .mapping entries =>
        (read (.mapping entries)).mapError fun problems =>
          fault path (some tableName) ("Invalid generator settings: " ++ summary problems)
      | _ => .error (fault path (some tableName) s!"[{tableName}] must be a table")

/-- Settings of what stands at a path; without a file everything is at its default. -/
def ofStored (path : Path) : Option Stored → Except Trouble Config
  | none => .ok {}
  | some stored => do
    ofTables path (← readTables path (← decodedText (← stored.bytes path)))

end AppSync.Config
