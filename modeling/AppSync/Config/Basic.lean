import AppSync.Document.KeyText
import AppSync.Document.Reading
import AppSync.Path

/-! Settings of a generation run. -/

namespace AppSync

/-- A file name without a directory. -/
abbrev PlainName := { name : String // Path.isPlainName name = true }

/-- Where the two documents go and how they are made. -/
structure Config where
  schemaFileName : PlainName := ⟨"schema.graphql", by decide +kernel⟩
  resolverFileName : PlainName := ⟨"resolvers.json", by decide +kernel⟩
  outputDirectory : String := "graphql"
  schemaDescription : Option String := none
  strictDataSources : Bool := false
  validateSdl : Bool := true
deriving DecidableEq

namespace Config

/-- The keys of settings. -/
def keys : List String :=
  ["schema_file_name", "resolver_file_name", "output_directory", "schema_description",
    "strict_data_sources", "validate_sdl"]

/-- Reads a file name that holds no directory. -/
def readPlainName (value : Value) : Reading PlainName :=
  Reading.obeying (Path.isPlainName · = true) .notPlainFileName (Reading.text value)

/-- Every key has to be that of a setting; the others are problems, in order. -/
def readKeys (entries : Entries) : Reading Unit :=
  match entries.filter fun entry => keys.all fun key => entry.1 ≠ .text key with
  | [] => .ok ()
  | unknown => .error (unknown.map fun entry => ⟨[entry.1.step], .unknownKey⟩)

/-- Reads settings; an unknown key is a problem, named after those of the settings. -/
def read (value : Value) : Reading Config := do
  let entries ← Reading.record "GeneratorConfig" value
  let defaults : Config := {}
  (Reading.optional "schema_file_name" readPlainName defaults.schemaFileName entries).map
      (fun schema resolver directory description strict validate _ =>
        Config.mk schema resolver directory description strict validate)
    |> Reading.give (Reading.optional "resolver_file_name" readPlainName
        defaults.resolverFileName entries)
    |> Reading.give (Reading.optional "output_directory" Reading.text
        defaults.outputDirectory entries)
    |> Reading.give (Reading.optional "schema_description" (Reading.nullable Reading.text)
        none entries)
    |> Reading.give (Reading.optional "strict_data_sources" Reading.boolean false entries)
    |> Reading.give (Reading.optional "validate_sdl" Reading.boolean true entries)
    |> Reading.give (readKeys entries)

/-- The document form of settings. -/
def toJson (config : Config) : Json :=
  .object [
    ("schema_file_name", .text config.schemaFileName.1),
    ("resolver_file_name", .text config.resolverFileName.1),
    ("output_directory", .text config.outputDirectory),
    ("schema_description", Json.ofText? config.schemaDescription),
    ("strict_data_sources", .bool config.strictDataSources),
    ("validate_sdl", .bool config.validateSdl)]

end Config

end AppSync
