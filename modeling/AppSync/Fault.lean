import AppSync.Path

/-! Faults that are reported with the place that they concern. -/

namespace AppSync

/-- What a fault is about. -/
inductive FaultKind where
  | general
  | load
  | validation
  | generation
  | config
deriving DecidableEq, Repr

/-- Where a fault lies: a file with a line, a place inside the document. -/
structure FaultContext where
  file : Option Path := none
  location : Option String := none
  line : Option Int := none
deriving DecidableEq, Repr

/-- A fault with its message and, where known, its place. -/
structure Fault where
  kind : FaultKind
  message : String
  context : Option FaultContext := none
deriving DecidableEq, Repr

/-- The stable code of a kind of faults. -/
def FaultKind.code? : FaultKind → Option String
  | .generation => some "LGQL003"
  | _ => none

/-- File and line, then the place in the document; line 0 and an empty place count as unknown. -/
def FaultContext.text (context : FaultContext) : String :=
  let file := match context.file, context.line.filter (· ≠ 0) with
    | some path, some line => [path.toString ++ s!":{line}"]
    | some path, none => [path.toString]
    | none, _ => []
  let place := match context.location.filter (· ≠ "") with
    | some location => ["at " ++ location]
    | none => []
  match file ++ place with
  | [] => "<unknown>"
  | parts => String.intercalate " " parts

namespace Fault

/-- The message behind its code, below a line for the place. -/
def text (fault : Fault) : String :=
  let message := match fault.kind.code? with
    | some code => code ++ ": " ++ fault.message
    | none => fault.message
  match fault.context with
  | some context => context.text ++ "\n" ++ message
  | none => message

/-- A fault of loading, placed only where the file is known. -/
def load (message : String) (file : Option Path) (line : Option Int) : Fault :=
  ⟨.load, message, file.map fun path => ⟨some path, none, line⟩⟩

/-- A fault of generation, placed only where a location is known. -/
def generation (message : String) (location : Option String) : Fault :=
  ⟨.generation, message, (location.filter (· ≠ "")).map fun place => ⟨none, some place, none⟩⟩

end Fault

end AppSync
