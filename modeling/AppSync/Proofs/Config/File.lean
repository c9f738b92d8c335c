import AppSync.Config.File
import AppSync.Proofs.Config.Settings
import AppSync.Proofs.Toml.Document

/-!
Settings in a file: which content asks for which settings, and how any other content is refused. An
empty value in place of the table of settings is passed over, which no other wrong value is.
-/

namespace AppSync.Config

variable {path : Path} {bytes : List UInt8}

/-- The tables of a content: its bytes encode a text that has them. -/
def HoldsTables (bytes : List UInt8) (tables : Entries) : Prop :=
  ∃ text, Utf8.decode bytes = .ok text ∧ Toml.read text = .ok tables

/-- The settings that a content asks for: those in its table, or the defaults without one. -/
inductive Asks (bytes : List UInt8) : Config → Prop where
  | nothing {tables : Entries} (held : HoldsTables bytes tables)
    (absent : Entries.get? tableName tables = none) : Asks bytes {}
  | settings {tables table : Entries} {config : Config} (held : HoldsTables bytes tables)
    (found : Entries.get? tableName tables = some (.mapping table))
    (valid : Overlays table config) : Asks bytes config

/-- Whether something stands in place of the table of settings that is empty and no table. -/
def HoldsEmpty (bytes : List UInt8) : Prop :=
  ∃ tables value, HoldsTables bytes tables ∧ Entries.get? tableName tables = some value ∧
    value.isTruthy = false ∧ ∀ table, value ≠ .mapping table

/-- Why a content is refused: for a fault of the file, or for one of two accidents. -/
inductive Refusal (path : Path) (bytes : List UInt8) : Trouble → Prop where
  | fault (location : Option String) (message : String) :
    Refusal path bytes (fault path location message)
  | undecodable {error : Utf8.Error} (failed : Utf8.decode bytes = .error error) :
    Refusal path bytes (.accident (.undecodable error))
  | long {text : String} {digits : List Char} (decoded : Utf8.decode bytes = .ok text)
    (held : Toml.HoldsDigits (Text.foldPairedReturns text.toList) digits)
    (long : Number.digitLimit < digits.length) :
    Refusal path bytes (.accident (.longNumeral digits.length))

/-- The tables of a content are one, so that what is found in them is as well. -/
theorem HoldsTables.unique {tables others : Entries} (one : HoldsTables bytes tables)
    (other : HoldsTables bytes others) : tables = others := by
  obtain ⟨text, decoded, read⟩ := one
  obtain ⟨same, also, again⟩ := other
  obtain rfl : text = same := Except.ok.inj (decoded.symm.trans also)
  exact Except.ok.inj (read.symm.trans again)

/-- What a content with tables asks for depends on what stands in place of the table. -/
theorem asks_iff {tables : Entries} (held : HoldsTables bytes tables) {config : Config} :
    Asks bytes config ↔ Entries.get? tableName tables = none ∧ config = {} ∨
      ∃ table, Entries.get? tableName tables = some (.mapping table) ∧ Overlays table config := by
  -- A content has one value at most, so that both sides speak of the same tables.
  constructor
  · intro asks
    cases asks with
    | nothing own absent =>
      rw [held.unique own]
      exact .inl ⟨absent, rfl⟩
    | settings own found valid =>
      rw [held.unique own]
      exact .inr ⟨_, found, valid⟩
  · rintro (⟨absent, rfl⟩ | ⟨table, found, valid⟩)
    · exact .nothing held absent
    · exact .settings held found valid

/-- Whether something empty stands in place of the table depends on the tables. -/
theorem holdsEmpty_iff {tables : Entries} (held : HoldsTables bytes tables) :
    HoldsEmpty bytes ↔ ∃ value, Entries.get? tableName tables = some value ∧
      value.isTruthy = false ∧ ∀ table, value ≠ .mapping table := by
  constructor
  · rintro ⟨others, value, own, rest⟩
    rw [held.unique own]
    exact ⟨value, rest⟩
  · rintro ⟨value, rest⟩
    exact ⟨tables, value, held, rest⟩

/-- A content that is a text is answered as the tables of the text are. -/
theorem ofStored_decoded {text : String} (decoded : Utf8.decode bytes = .ok text) :
    ofStored path (some (.file bytes)) = readTables path text >>= ofTables path := by
  have told : decodedText bytes = .ok text := by
    rw [decodedText, decoded]
    rfl
  simp only [ofStored, Stored.bytes, told, bind, Except.bind]

/-- A content with tables is answered as its tables are. -/
theorem ofStored_eq {tables : Entries} (held : HoldsTables bytes tables) :
    ofStored path (some (.file bytes)) = ofTables path tables := by
  obtain ⟨text, decoded, read⟩ := held
  rw [ofStored_decoded decoded, readTables, read]
  rfl

/-- A content without tables is refused. -/
theorem refusal_of_no_tables (none : ∀ tables, ¬HoldsTables bytes tables) :
    ∃ trouble, ofStored path (some (.file bytes)) = .error trouble ∧
      Refusal path bytes trouble := by
  cases decoded : Utf8.decode bytes with
  | error error =>
    have told : decodedText bytes = .error (.accident (.undecodable error)) := by
      rw [decodedText, decoded]
      rfl
    refine ⟨.accident (.undecodable error), ?_, .undecodable decoded⟩
    simp only [ofStored, Stored.bytes, told, bind, Except.bind]
  | ok text =>
    cases read : Toml.read text with
    | ok tables => exact absurd ⟨text, decoded, read⟩ (none tables)
    | error failure =>
      rw [ofStored_decoded decoded]
      -- A text is refused for a fault, or for an integer that is too long.
      cases Toml.read_refuses read with
      | fault fault =>
        simp only [readTables, read, bind, Except.bind]
        exact ⟨_, rfl, .fault _ _⟩
      | long held long =>
        simp only [readTables, read, bind, Except.bind]
        exact ⟨_, rfl, .long decoded held long⟩

/-- The settings of tables with a table of settings are those that it holds over the defaults. -/
theorem ofTables_mapping {tables table : Entries} {config : Config}
    (found : Entries.get? tableName tables = some (.mapping table)) :
    ofTables path tables = .ok config ↔ Overlays table config := by
  rw [← read_eq_ok_iff]
  cases table with
  | nil =>
    -- An empty table leaves everything at its default, as reading it would.
    have steps : ofTables path tables = .ok {} := by
      simp [ofTables, found, Value.isTruthy]
    have empty : read (.mapping []) = .ok {} := read_eq_ok_iff.mpr
      ⟨nofun, rfl, rfl, rfl, rfl, rfl, rfl⟩
    rw [steps, empty, Except.ok.injEq, Except.ok.injEq]
  | cons entry rest =>
    have steps : ofTables path tables = (read (.mapping (entry :: rest))).mapError fun problems =>
        fault path (some tableName) ("Invalid generator settings: " ++ summary problems) := by
      simp [ofTables, found, Value.isTruthy]
    rw [steps]
    cases read (.mapping (entry :: rest)) with
    | error problems => exact ⟨nofun, nofun⟩
    | ok held =>
      constructor
      · rintro ⟨⟩
        rfl
      · rintro ⟨⟩
        rfl

/-- What stands in place of the table decides on the settings of tables. -/
theorem ofTables_eq_ok {tables : Entries} {config : Config} :
    ofTables path tables = .ok config ↔
      (Entries.get? tableName tables = none ∧ config = {} ∨
        ∃ table, Entries.get? tableName tables = some (.mapping table) ∧ Overlays table config) ∨
      (∃ value, Entries.get? tableName tables = some value ∧ value.isTruthy = false ∧
        ∀ table, value ≠ .mapping table) ∧ config = {} := by
  cases found : Entries.get? tableName tables with
  | none =>
    have steps : ofTables path tables = .ok {} := by simp [ofTables, found]
    rw [steps]
    simp [@eq_comm _ config]
  | some value =>
    by_cases mapping : ∃ table, value = .mapping table
    · obtain ⟨table, rfl⟩ := mapping
      rw [ofTables_mapping found]
      simp
    · -- Of the other values those that are empty give the defaults.
      have other : ∀ table, value ≠ .mapping table := not_exists.mp mapping
      cases truthy : value.isTruthy with
      | false =>
        have steps : ofTables path tables = .ok {} := by simp [ofTables, found, truthy]
        rw [steps]
        simp [truthy, other, @eq_comm _ config]
      | true =>
        have refused : ofTables path tables =
            .error (fault path (some tableName) s!"[{tableName}] must be a table") := by
          simp only [ofTables, found, truthy]
          cases value with
          | mapping table => exact absurd rfl (other table)
          | _ => rfl
        rw [refused]
        simp [truthy, other]

/-- Tables are refused with a fault only. -/
theorem ofTables_refusal (path : Path) (bytes : List UInt8) (tables : Entries) :
    Ends (fun _ => True) (Refusal path bytes) (ofTables path tables) := by
  unfold ofTables
  -- No table, or nothing in its place, asks for nothing; the rest is read or refused.
  cases Entries.get? tableName tables with
  | none => trivial
  | some value =>
    refine .ite (fun empty => trivial) fun filled => ?_
    cases value with
    | mapping table =>
      dsimp only
      cases read (.mapping table) with
      | ok config => trivial
      | error problems => exact Refusal.fault _ _
    | _ => exact Refusal.fault _ _

/--
A content gives settings exactly if it asks for them, or if something empty stands in place of the
table, which gives the defaults. Any other content is refused: with a fault of the file unless its
bytes are no text, or an integer in it has too many digits.
-/
theorem ofStored_answers (path : Path) (bytes : List UInt8) :
    (∀ config, ofStored path (some (.file bytes)) = .ok config ↔
      Asks bytes config ∨ HoldsEmpty bytes ∧ config = {}) ∧
    Ends (fun _ => True) (Refusal path bytes) (ofStored path (some (.file bytes))) := by
  by_cases readable : ∃ tables, HoldsTables bytes tables
  · obtain ⟨tables, held⟩ := readable
    rw [ofStored_eq held]
    refine ⟨fun config => ?_, ofTables_refusal path bytes tables⟩
    rw [asks_iff held, holdsEmpty_iff held]
    exact ofTables_eq_ok
  · -- Without tables nothing is asked for.
    have none : ∀ tables, ¬HoldsTables bytes tables := not_exists.mp readable
    obtain ⟨trouble, ended, refused⟩ := refusal_of_no_tables none
    rw [ended]
    refine ⟨fun config => ⟨nofun, ?_⟩, refused⟩
    rintro (asks | ⟨⟨tables, value, held, -⟩, -⟩)
    · cases asks with
      | nothing held => exact absurd held (none _)
      | settings held => exact absurd held (none _)
    · exact absurd held (none tables)

/-- A truth value in place of the table is passed over, and bytes that are no text are no fault. -/
theorem ofStored_false :
    ofStored ⟨"", [fileName]⟩ (some (.file (Utf8.encode "generate = false\n"))) = .ok {} ∧
      (∀ config, ¬Asks (Utf8.encode "generate = false\n") config) ∧
      ofStored ⟨"", [fileName]⟩ (some (.file [0xff])) =
        .error (.accident (.undecodable ⟨.start, 0, [0xff]⟩)) := by
  have decoded : Utf8.decode (Utf8.encode "generate = false\n") = .ok "generate = false\n" := by
    decide +kernel
  have held : HoldsTables (Utf8.encode "generate = false\n") [(.text tableName, .bool false)] :=
    ⟨_, decoded, rfl⟩
  refine ⟨by decide +kernel, fun config asks => ?_, by decide +kernel⟩
  rcases (asks_iff held).mp asks with ⟨absent, -⟩ | ⟨table, found, -⟩
  · cases absent
  · cases found

end AppSync.Config
