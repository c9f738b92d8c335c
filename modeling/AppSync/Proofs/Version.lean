import AppSync.Proofs.Toml.Document
import AppSync.Version

/-!
The version in a project file: which content states one, and which content keeps the lookup from an
answer. Any other content, like no content at all, states none.
-/

namespace AppSync

/-- Where every line break is a single line feed there is nothing to fold. -/
theorem Text.foldPairedReturns_unifyNewlines (text : List Char) :
    foldPairedReturns (unifyNewlines text) = unifyNewlines text := by
  -- Each case puts a character in front that is no carriage return.
  fun_induction unifyNewlines text with
  | case1 => rfl
  | case2 rest ih => simp [foldPairedReturns, ih]
  | case3 rest _ ih => simp [foldPairedReturns, ih]
  | case4 c rest _ other ih =>
    rw [foldPairedReturns, ih]
    rintro - rfl
    exact absurd rfl other

namespace Version

variable {bytes : List UInt8} {tables : Entries} {version : String} {trouble : Trouble}

/-- The text of a content: its bytes encode it, with each end of a line written as a line feed. -/
def HoldsText (bytes : List UInt8) (text : List Char) : Prop :=
  ∃ decoded, Utf8.decode bytes = .ok decoded ∧ Text.unifyNewlines decoded.toList = text

/-- The tables of a content, which its text has. -/
def HoldsTables (bytes : List UInt8) (tables : Entries) : Prop :=
  ∃ text, HoldsText bytes text ∧ Toml.read (String.ofList text) = .ok tables

/-- A content states a version: its table for the project has it, under the name of the program. -/
inductive States (bytes : List UInt8) (version : String) : Prop where
  | project {tables project : Entries} (held : HoldsTables bytes tables)
    (found : Entries.get? "project" tables = some (.mapping project))
    (named : Entries.get? "name" project = some (.text programName))
    (stated : Entries.get? "version" project = some (.text version)) : States bytes version

/-- Why a content has no answer: its bytes, an integer in it, or what stands for the project. -/
inductive Breaks (bytes : List UInt8) : Accident → Prop where
  | undecodable {error : Utf8.Error} (failed : Utf8.decode bytes = .error error) :
    Breaks bytes (.undecodable error)
  | long {text digits : List Char} (held : HoldsText bytes text)
    (refused : Toml.read (String.ofList text) = .error (.accident (.longNumeral digits.length)))
    (inside : Toml.HoldsDigits text digits) (long : Number.digitLimit < digits.length) :
    Breaks bytes (.longNumeral digits.length)
  | noTable {tables : Entries} {value : Value} (held : HoldsTables bytes tables)
    (found : Entries.get? "project" tables = some value)
    (other : ∀ project, value ≠ .mapping project) :
    Breaks bytes (.noEntries value.qualifiedTypeName)

/-- A content that is a text is answered as the reading of the text says. -/
theorem ofStored_eq {text : List Char} (held : HoldsText bytes text) :
    ofStored (some (.file bytes)) =
      match Toml.read (String.ofList text) with
      | .ok tables => ofTables tables
      | .error (.fault _) => .ok none
      | .error (.accident accident) => .error (.accident accident) := by
  obtain ⟨decoded, is_text, rfl⟩ := held
  have told : decodedText bytes = .ok decoded := by
    rw [decodedText, is_text]
    rfl
  simp only [ofStored, told, bind, Except.bind]
  -- A fault of the text is passed over here, and an accident is not.
  cases Toml.read (String.ofList (Text.unifyNewlines decoded.toList)) with
  | ok tables => rfl
  | error failure => cases failure <;> rfl

/-- A content with tables is answered as its tables are. -/
theorem ofStored_eq_ofTables (tabled : HoldsTables bytes tables) :
    ofStored (some (.file bytes)) = ofTables tables := by
  obtain ⟨text, held, read⟩ := tabled
  rw [ofStored_eq held, read]

/-- Bytes that are no text are met by accident. -/
theorem ofStored_undecodable {error : Utf8.Error} (failed : Utf8.decode bytes = .error error) :
    ofStored (some (.file bytes)) = .error (.accident (.undecodable error)) := by
  have told : decodedText bytes = .error (.accident (.undecodable error)) := by
    rw [decodedText, failed]
    rfl
  simp only [ofStored, told, bind, Except.bind]

/-- Tables give a version exactly if the table for the project has it under the right name. -/
theorem ofTables_eq_ok_some : ofTables tables = .ok (some version) ↔
    ∃ project, Entries.get? "project" tables = some (.mapping project) ∧
      Entries.get? "name" project = some (.text programName) ∧
      Entries.get? "version" project = some (.text version) := by
  unfold ofTables
  cases Entries.get? "project" tables with
  | none => simp [Entries.get?]
  | some value =>
    cases value with
    | mapping project =>
      simp only [Option.getD_some, Option.some.injEq, Value.mapping.injEq, exists_eq_left']
      -- Name and version both have to be texts, and the name has to be the one looked for.
      split
      · rename_i name stated named versioned
        rw [named, versioned]
        by_cases same : name = programName
        · simp [Value.text, same]
        · simp [Value.text, same]
      · rename_i no_texts
        refine ⟨nofun, fun ⟨named, stated⟩ => ?_⟩
        exact absurd stated (no_texts _ _ named)
    | _ => simp

/-- Tables have no answer exactly if something else than a table stands for the project. -/
theorem ofTables_eq_error : ofTables tables = .error trouble ↔
    ∃ value, Entries.get? "project" tables = some value ∧ (∀ project, value ≠ .mapping project) ∧
      trouble = .accident (.noEntries value.qualifiedTypeName) := by
  unfold ofTables
  cases Entries.get? "project" tables with
  | none => simp [Entries.get?]
  | some value =>
    cases value with
    | mapping project =>
      simp only [Option.getD_some, Option.some.injEq, exists_eq_left']
      -- A table is answered whatever it holds.
      refine ⟨fun failed => ?_, fun ⟨other, _⟩ => absurd rfl (other project)⟩
      split at failed <;> cases failed
    | _ => simp [eq_comm]

/-- What a content can be: bytes that are no text, or a text that has tables or is refused. -/
inductive Content (bytes : List UInt8) : Prop where
  | undecodable {error : Utf8.Error} (failed : Utf8.decode bytes = .error error)
  | tables {tables : Entries} (held : HoldsTables bytes tables)
  | faulty {text : List Char} {fault : Toml.Fault} (held : HoldsText bytes text)
    (refused : Toml.read (String.ofList text) = .error (.fault fault))
  | long {text digits : List Char} (held : HoldsText bytes text)
    (refused : Toml.read (String.ofList text) = .error (.accident (.longNumeral digits.length)))
    (inside : Toml.HoldsDigits text digits) (long : Number.digitLimit < digits.length)

/-- Every content is one of these. -/
theorem content (bytes : List UInt8) : Content bytes := by
  cases is_text : Utf8.decode bytes with
  | error error => exact .undecodable is_text
  | ok decoded =>
    have held : HoldsText bytes (Text.unifyNewlines decoded.toList) := ⟨decoded, is_text, rfl⟩
    cases read : Toml.read (String.ofList (Text.unifyNewlines decoded.toList)) with
    | ok tables => exact .tables ⟨_, held, read⟩
    | error failure =>
      -- The reader has nothing to fold in a text whose line breaks are line feeds.
      have refuses := Toml.read_refuses read
      rw [String.toList_ofList, Text.foldPairedReturns_unifyNewlines] at refuses
      cases refuses with
      | fault fault => exact .faulty held read
      | long inside long => exact .long held read inside long

/-- A content gives a version exactly if it states it. -/
theorem ofStored_eq_ok_some :
    ofStored (some (.file bytes)) = .ok (some version) ↔ States bytes version := by
  constructor
  · -- Only a content with tables gives any version.
    intro given
    cases content bytes with
    | undecodable failed => cases (ofStored_undecodable failed).symm.trans given
    | tables held =>
      rw [ofStored_eq_ofTables held] at given
      obtain ⟨project, found, named, stated⟩ := ofTables_eq_ok_some.mp given
      exact .project held found named stated
    | faulty held refused =>
      rw [ofStored_eq held, refused] at given
      cases given
    | long held refused =>
      rw [ofStored_eq held, refused] at given
      cases given
  · rintro ⟨held, found, named, stated⟩
    rw [ofStored_eq_ofTables held]
    exact ofTables_eq_ok_some.mpr ⟨_, found, named, stated⟩

/-- A content has no answer exactly if something about it keeps the lookup from one. -/
theorem ofStored_eq_error : ofStored (some (.file bytes)) = .error trouble ↔
    ∃ accident, Breaks bytes accident ∧ trouble = .accident accident := by
  constructor
  · -- A text that the reader finds fault with is answered, unlike one with too long an integer.
    intro ended
    cases content bytes with
    | undecodable failed =>
      cases (ofStored_undecodable failed).symm.trans ended
      exact ⟨_, .undecodable failed, rfl⟩
    | tables held =>
      rw [ofStored_eq_ofTables held] at ended
      obtain ⟨value, found, other, rfl⟩ := ofTables_eq_error.mp ended
      exact ⟨_, .noTable held found other, rfl⟩
    | faulty held refused =>
      rw [ofStored_eq held, refused] at ended
      cases ended
    | long held refused inside long =>
      rw [ofStored_eq held, refused] at ended
      cases ended
      exact ⟨_, .long held refused inside long, rfl⟩
  · rintro ⟨accident, breaks, rfl⟩
    cases breaks with
    | undecodable failed => exact ofStored_undecodable failed
    | long held refused => rw [ofStored_eq held, refused]
    | noTable held found other =>
      rw [ofStored_eq_ofTables held]
      exact ofTables_eq_error.mpr ⟨_, found, other, rfl⟩

/-- A content is answered with no version if it states none and nothing about it is in the way. -/
theorem ofStored_eq_ok_none : ofStored (some (.file bytes)) = .ok none ↔
    (∀ version, ¬States bytes version) ∧ ∀ accident, ¬Breaks bytes accident := by
  -- An answer is a version, an accident or neither, and the first two are told already.
  constructor
  · intro given
    refine ⟨fun version states => ?_, fun accident breaks => ?_⟩
    · cases given.symm.trans (ofStored_eq_ok_some.mpr states)
    · cases given.symm.trans (ofStored_eq_error.mpr ⟨accident, breaks, rfl⟩)
  · rintro ⟨unstated, unbroken⟩
    cases answer : ofStored (some (.file bytes)) with
    | ok found =>
      cases found with
      | none => rfl
      | some version => exact absurd (ofStored_eq_ok_some.mp answer) (unstated version)
    | error trouble =>
      obtain ⟨accident, breaks, -⟩ := ofStored_eq_error.mp answer
      exact absurd breaks (unbroken accident)

/--
What stands at the path of a project file gives exactly the version that it states as content. The
lookup has no answer exactly if the bytes are no text, if an integer in the text has too many
digits, or if something else than a table stands for the project. Anything else states no version.
-/
theorem ofStored_tells (stored : Option Stored) :
    (∀ version, ofStored stored = .ok (some version) ↔
      ∃ bytes, stored = some (.file bytes) ∧ States bytes version) ∧
    (∀ trouble, ofStored stored = .error trouble ↔
      ∃ bytes accident, stored = some (.file bytes) ∧ Breaks bytes accident ∧
        trouble = .accident accident) ∧
    (ofStored stored = .ok none ↔ ∀ bytes, stored = some (.file bytes) →
      (∀ version, ¬States bytes version) ∧ ∀ accident, ¬Breaks bytes accident) := by
  -- Only a file has content; without one the lookup states no version.
  rcases stored with _ | bytes | _
  case some.file =>
    simp only [Option.some.injEq, Stored.file.injEq, exists_and_left, exists_eq_left', forall_eq']
    exact ⟨fun version => ofStored_eq_ok_some, fun trouble => ofStored_eq_error,
      ofStored_eq_ok_none⟩
  case none =>
    have absent : ofStored none = .ok none := rfl
    simp [absent]
  case some.directory =>
    have directory : ofStored (some .directory) = .ok none := rfl
    simp [directory]

/-- A project file whose lines end in carriage returns, as no TOML text does. -/
def returnedLines : String := "[project]\rname = \"lambda-graphql\"\rversion = \"1.2\"\r"

/--
Bytes that are no text keep the lookup from an answer, and so does a text in place of the table. A
file with carriage returns for line breaks states its version, though its text has no tables.
-/
theorem ofStored_stuck :
    ofStored (some (.file [0xff])) = .error (.accident (.undecodable ⟨.start, 0, [0xff]⟩)) ∧
      ofStored (some (.file (Utf8.encode "project = \"x\"\n"))) =
        .error (.accident (.noEntries "str")) ∧
      ofStored (some (.file (Utf8.encode returnedLines))) = .ok (some "1.2") ∧
      (Toml.read returnedLines).toOption = none := by
  refine ⟨?_, ?_, ?_, ?_⟩ <;> decide +kernel

end Version

end AppSync
