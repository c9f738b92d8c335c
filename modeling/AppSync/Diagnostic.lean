import AppSync.Text.Choice

/-! Diagnostics: what was noticed about single types and operations. -/

namespace AppSync

/-- How much a diagnostic matters. -/
inductive Severity where
  | info
  | warning
  | error
deriving DecidableEq, Repr

/-- What a diagnostic is about. -/
inductive DiagnosticCode where
  | typeExtraction
  | operationExtraction
  | schemaGeneration
  | returnTypeFallback
  | dataSourceConflict
deriving DecidableEq, Repr

/-- A problem tied to a place in the document and, where known, to a type or operation. -/
structure Diagnostic where
  code : DiagnosticCode
  severity : Severity
  message : String
  location : Option String := none
  entity : Option String := none
deriving DecidableEq, Repr

namespace Severity

/-- The word for a severity. -/
def word : Severity → String
  | info => "info"
  | warning => "warning"
  | error => "error"

/-- The severity that a word names. -/
def ofWord (word : String) : Except UnknownChoice Severity :=
  chosen "Severity" Severity.word [info, warning, error] word

end Severity

namespace DiagnosticCode

/-- The stable identifier of a code. -/
def identifier : DiagnosticCode → String
  | typeExtraction => "LGQL001"
  | operationExtraction => "LGQL002"
  | schemaGeneration => "LGQL003"
  | returnTypeFallback => "LGQL004"
  | dataSourceConflict => "LGQL005"

/-- Every code. -/
def all : List DiagnosticCode :=
  [typeExtraction, operationExtraction, schemaGeneration, returnTypeFallback, dataSourceConflict]

/-- The code with an identifier. -/
def ofIdentifier (identifier : String) : Except UnknownChoice DiagnosticCode :=
  chosen "DiagnosticCode" DiagnosticCode.identifier all identifier

/-- The title of a code's diagnostics. -/
def title : DiagnosticCode → String
  | typeExtraction => "Type extraction failed"
  | operationExtraction => "Operation extraction failed"
  | schemaGeneration => "Schema generation failed"
  | returnTypeFallback => "Return type extraction failed"
  | dataSourceConflict => "Conflicting data source"

end DiagnosticCode

namespace Diagnostic

/-- A diagnostic of a code and a severity given by their words; the code is looked at first. -/
def ofWords (code severity message : String) (location entity : Option String) :
    Except UnknownChoice Diagnostic := do
  let code ← DiagnosticCode.ofIdentifier code
  let severity ← Severity.ofWord severity
  return ⟨code, severity, message, location, entity⟩

/-- Code, severity and place before the message. -/
def text (diagnostic : Diagnostic) : String :=
  let place := match diagnostic.location.filter (· ≠ "") with
    | some location => " at " ++ location
    | none => ""
  diagnostic.code.identifier ++ " " ++ diagnostic.severity.word ++ place ++ ": " ++
    diagnostic.message

/-- Diagnostics of one severity, in order. -/
def ofSeverity (severity : Severity) (diagnostics : List Diagnostic) : List Diagnostic :=
  diagnostics.filter fun diagnostic => diagnostic.severity = severity

/-- Whether any diagnostic is more than a note. -/
def anyWarning (diagnostics : List Diagnostic) : Bool :=
  diagnostics.any fun diagnostic => diagnostic.severity ≠ .info

end Diagnostic

end AppSync
