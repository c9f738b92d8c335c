import AppSync.Config.Basic
import AppSync.Proofs.Document.Lookup

/-!
Settings as a table holds them: each of them is what stands at its key, or its default where the key
is absent, and there is no other key.
-/

namespace AppSync

namespace Reading

variable {α β : Type} {value : β}

/-- A value is made where a function and its argument are both read. -/
theorem give_eq_ok {argument : Reading α} {function : Reading (α → β)} :
    give argument function = .ok value ↔
      ∃ make part, function = .ok make ∧ argument = .ok part ∧ make part = value := by
  cases function <;> cases argument <;> simp [give]

/-- A value is made of one that is read. -/
theorem map_eq_ok {make : α → β} {reading : Reading α} :
    reading.map make = .ok value ↔ ∃ part, reading = .ok part ∧ make part = value := by
  cases reading <;> simp [Except.map]

/-- Where a value stands does not matter to whether it is read. -/
theorem below_eq_ok {step : String} {reading : Reading β} :
    below step reading = .ok value ↔ reading = .ok value := by
  cases reading with
  | error problems => exact ⟨nofun, nofun⟩
  | ok held => exact Iff.rfl

/-- What is found of a value that may be absent. -/
def Finds (key : String) (read : Value → Reading β) (absent : β) (entries : Entries)
    (found : β) : Prop :=
  match entries.get? key with
  | none => found = absent
  | some value => read value = .ok found

/-- An optional value is read exactly if it is found. -/
theorem optional_eq_ok {key : String} {read : Value → Reading β} {absent : β}
    {entries : Entries} :
    optional key read absent entries = .ok value ↔ Finds key read absent entries value := by
  unfold optional Finds
  cases entries.get? key with
  | none => simp [eq_comm]
  | some held => exact below_eq_ok

end Reading

namespace Config

open Reading (Finds)

/-- The settings at their keys in a table, over the defaults. -/
structure Overlays (table : Entries) (config : Config) : Prop where
  /-- Every key is that of a setting. -/
  known : ∀ entry ∈ table, ∃ key ∈ keys, entry.1 = .text key
  schemaFileName :
    Finds "schema_file_name" readPlainName ({} : Config).schemaFileName table
      config.schemaFileName
  resolverFileName :
    Finds "resolver_file_name" readPlainName ({} : Config).resolverFileName table
      config.resolverFileName
  outputDirectory :
    Finds "output_directory" Reading.text ({} : Config).outputDirectory table
      config.outputDirectory
  schemaDescription :
    Finds "schema_description" (Reading.nullable Reading.text) none table
      config.schemaDescription
  strictDataSources :
    Finds "strict_data_sources" Reading.boolean false table config.strictDataSources
  validateSdl : Finds "validate_sdl" Reading.boolean true table config.validateSdl

variable {table : Entries} {config : Config}

/-- Keys are accepted if each of them is that of a setting. -/
theorem readKeys_eq_ok : readKeys table = .ok () ↔
    ∀ entry ∈ table, ∃ key ∈ keys, entry.1 = .text key := by
  -- A key is unknown if it differs from each that is known.
  have unknown : table.filter (fun entry => keys.all fun key => entry.1 ≠ .text key) = [] ↔
      ∀ entry ∈ table, ∃ key ∈ keys, entry.1 = .text key := by
    simp [List.filter_eq_nil_iff]
  unfold readKeys
  split
  · rename_i none_left
    simpa using unknown.mp none_left
  · rename_i left
    rw [← unknown]
    simpa using left

/-- A table is read as settings exactly if it holds them over the defaults. -/
theorem read_eq_ok_iff : read (.mapping table) = .ok config ↔ Overlays table config := by
  have entries : Reading.record "GeneratorConfig" (.mapping table) = .ok table := rfl
  unfold read
  rw [entries]
  simp only [bind, Except.bind, Reading.give_eq_ok, Reading.map_eq_ok, Reading.optional_eq_ok]
  -- The keys are read last, and give nothing but their consent.
  constructor
  · rintro ⟨_, ⟨⟩, ⟨_, validate, ⟨_, strict, ⟨_, description, ⟨_, directory, ⟨_, resolver,
      ⟨schema, schema_found, rfl⟩, resolver_found, rfl⟩, directory_found, rfl⟩,
      description_found, rfl⟩, strict_found, rfl⟩, validate_found, rfl⟩, known, rfl⟩
    exact ⟨readKeys_eq_ok.mp known, schema_found, resolver_found, directory_found,
      description_found, strict_found, validate_found⟩
  · intro overlays
    exact ⟨_, (), ⟨_, _, ⟨_, _, ⟨_, _, ⟨_, _, ⟨_, _, ⟨_, overlays.schemaFileName, rfl⟩,
      overlays.resolverFileName, rfl⟩, overlays.outputDirectory, rfl⟩,
      overlays.schemaDescription, rfl⟩, overlays.strictDataSources, rfl⟩,
      overlays.validateSdl, rfl⟩, readKeys_eq_ok.mpr overlays.known, rfl⟩

end Config

end AppSync
