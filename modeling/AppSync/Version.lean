import AppSync.Text.Line
import AppSync.Toml.Document
import AppSync.Trouble

/-! The version of the program, as its project file states it. -/

namespace AppSync.Version

/-- The name of the program. -/
def programName : String := "lambda-graphql"

/-- The version of this program. -/
def current : String := "0.1.0"

/-- The version in the tables of a project file, if the file is that of this program. -/
def ofTables (tables : Entries) : Except Trouble (Option String) :=
  match (Entries.get? "project" tables).getD (.mapping []) with
  | .mapping project =>
    match Entries.get? "name" project, Entries.get? "version" project with
    | some (.scalar (.text name)), some (.scalar (.text version)) =>
      .ok (if name = programName then some version else none)
    | _, _ => .ok none
  | other => .error (.accident (.noEntries other.qualifiedTypeName))

/-- The version in what stands at the path of a project file; an unreadable file states none. -/
def ofStored : Option Stored → Except Trouble (Option String)
  | some (.file bytes) => do
    let text ← decodedText bytes
    match Toml.read (String.ofList (Text.unifyNewlines text.toList)) with
    | .ok tables => ofTables tables
    | .error (.fault _) => return none
    | .error (.accident accident) => throw (.accident accident)
  | _ => .ok none

end AppSync.Version
