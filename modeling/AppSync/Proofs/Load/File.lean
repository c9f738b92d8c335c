import AppSync.Load.File
import AppSync.Proofs.Load.Totality
import AppSync.Proofs.Yaml.Meaning

/-!
Loading a document from a file: it ends with a report, or with a fault of loading or validation.
Everything else that can end it is said here, and lies in the bytes, an escape, a scalar or an entry.
-/

namespace AppSync

namespace Extraction

variable {α β : Type}

/-- What cannot be said of an entry: a text with half a character, or an integer that is too long. -/
inductive Unsayable : Accident → Prop where
  | half (complaint : String) : Unsayable (.unencodable complaint)
  | long : Unsayable .overlongInteger

/-- An extraction that no other accident ends. -/
def Says (extraction : Extraction α) : Prop :=
  ∀ trail accident, (extraction.run trail).1 = .error (.accident accident) → Unsayable accident

namespace Says

/-- A value that is there already. -/
@[grind ←]
theorem pure (value : α) : Says (Pure.pure value) := by
  rintro trail accident ⟨⟩

/-- A fault is no accident. -/
@[grind ←]
theorem refuse (fault : ExtractionFault) : Says (Extraction.refuse fault : Extraction α) := by
  rintro trail accident ⟨⟩

/-- One extraction after another. -/
@[grind ←]
theorem bind {first : Extraction α} {next : α → Extraction β} (one : Says first)
    (other : ∀ value, Says (next value)) : Says (first >>= next) := by
  intro trail accident
  rw [Trailing.run_bind]
  cases ended : (first.run trail).1 with
  | error error =>
    rintro ⟨⟩
    exact one trail accident ended
  | ok middle => exact other middle _ accident

/-- Looking at the trail. -/
@[grind ←]
theorem get : Says (get : Extraction Trail) := by
  rintro trail accident ⟨⟩

/-- Adding to the trail. -/
@[grind ←]
theorem modify (change : Trail → Trail) : Says (modify change : Extraction PUnit) := by
  rintro trail accident ⟨⟩

/-- What is read, or the problems with it, which may be unsayable. -/
@[grind ←]
theorem ofReading (fault : List Problem → ExtractionFault) (reading : Reading α) :
    Says (Extraction.ofReading fault reading) := by
  cases reading with
  | ok value => exact pure value
  | error problems =>
    intro trail accident ended
    -- Problems are an accident only where one of them cannot be put into words.
    change Except.error (endOf fault problems) = _ at ended
    unfold endOf at ended
    split at ended
    · cases ended
      exact .half _
    · cases ended

/-- What a lookup answers. -/
@[grind ←]
theorem ofLookup (place : String) (found : Except LookupFault α × TypeCache) :
    Says (Extraction.ofLookup place found) := by
  unfold Extraction.ofLookup
  grind

end Says

/-- Source types. -/
@[grind ←]
theorem says_parseSource (place : String) (value : Value) : Says (parseSource place value) :=
  .ofReading _ _

/-- Items of lists. -/
@[grind ←]
theorem says_itemsOf (value : Value) : Says (itemsOf value) := by
  unfold itemsOf
  grind

/-- Output types. -/
@[grind ←]
theorem says_resolveSource (place : String) (source : Source) :
    Says (resolveSource place source) :=
  .bind .get fun _ => .ofLookup _ _

/-- Fields and arguments. -/
@[grind ←]
theorem says_resolveMember (place : String) (nullable : Bool) (value : Value) :
    Says (resolveMember place nullable value) := by
  unfold resolveMember
  grind

/-- Lists of fields and arguments. -/
@[grind ←]
theorem says_resolveMembers (place : String) (nullable : Bool) (index : Nat)
    (values : List Value) : Says (resolveMembers place nullable index values) := by
  induction values generalizing index with
  | nil => exact .pure []
  | cons value rest ih =>
    unfold resolveMembers
    grind

/-- Members at a key. -/
@[grind ←]
theorem says_resolveAt (key place : String) (nullable : Bool) (entries : Entries) :
    Says (resolveAt key place nullable entries) := by
  unfold resolveAt
  grind

/-- Types. -/
theorem says_type (place : String) (value : Value) : Says (type place value) := by
  unfold type
  grind

/-- Declared return types. -/
@[grind ←]
theorem says_declaredReturn (entries : Entries) : Says (declaredReturn entries) := by
  unfold declaredReturn
  grind

/-- Return types of sources. -/
@[grind ←]
theorem says_returnedBy (place : String) (source : Source) (declared : Option String) :
    Says (returnedBy place source declared) := by
  unfold returnedBy
  grind

/-- Fields that the note on a fallback may be unable to show. -/
@[grind ←]
theorem says_checkShown (entries : Entries) : Says (checkShown entries) := by
  unfold checkShown
  split
  · rintro trail accident ⟨⟩
    exact .long
  · exact .pure ()

/-- Return types. -/
@[grind ←]
theorem says_resolveReturn (place : String) (entries : Entries) :
    Says (resolveReturn place entries) := by
  unfold resolveReturn
  grind

/-- Operations. -/
theorem says_operation (place : String) (value : Value) : Says (operation place value) := by
  unfold operation
  grind

end Extraction

namespace Load

variable {path : Path} {content : Option (List UInt8)} {entries : Entries}

/-! ## Entries -/

/-- A type is named in bytes like a root type. -/
def NamesRoot (entries : Entries) : Prop :=
  ∃ items, topLevelItems "types" entries = .ok items ∧
    ∃ item ∈ items, ¬item.At "name" Extraction.IsFreeName

/-- Why the loading of entries ends: for a mistake, or at an entry that cannot be told. -/
inductive Stops (entries : Entries) : Trouble → Prop where
  | fault {fault : Fault} (kind : fault.kind = .validation)
    (mistaken : Mistaken entries ∨ NamesRoot entries) : Stops entries (.fault fault)
  | type {items : List Value} {value : Value} {accident : Accident}
    (listed : topLevelItems "types" entries = .ok items) (member : value ∈ items)
    (untold : ¬value.NamesType) (unsayable : Extraction.Unsayable accident) :
    Stops entries (.accident accident)
  | operation {items : List Value} {value : Value} {accident : Accident}
    (listed : topLevelItems "operations" entries = .ok items) (member : value ∈ items)
    (untold : ¬(value.NamesOperation ∧ Extraction.IsShown value))
    (unsayable : Extraction.Unsayable accident) : Stops entries (.accident accident)

/-- The items at a top-level key are listed, or are refused for a fault of validation. -/
theorem topLevelItems_ends {key : String} (mistake : Misplaces key entries → Mistaken entries) :
    Ends (fun items => topLevelItems key entries = .ok items) (Stops entries)
      ((topLevelItems key entries).mapError .fault) := by
  obtain ⟨⟨items, listed⟩, -⟩ | ⟨⟨fault, failed, kind⟩, misplaced⟩ :=
    topLevelItems_cases key entries
  · rw [listed]
    exact rfl
  · rw [failed]
    exact .error (.fault kind (.inl (mistake misplaced)))

/-- A type that is an accident cannot be told. -/
theorem stops_type {items : List Value} {value : Value} {place : String} {accident : Accident}
    (listed : topLevelItems "types" entries = .ok items) (member : value ∈ items)
    (ended : typeAlone place value = .error (.accident accident)) :
    Stops entries (.accident accident) :=
  .type listed member (fun named => type_calm named place accident ended)
    (Extraction.says_type place value {} accident ended)

/-- An operation that is an accident cannot be told. -/
theorem stops_operation {items : List Value} {value : Value} {place : String} {accident : Accident}
    (listed : topLevelItems "operations" entries = .ok items) (member : value ∈ items)
    (ended : operationAlone place value = .error (.accident accident)) :
    Stops entries (.accident accident) := by
  refine .operation listed member (fun told => ?_) ?_
  · exact operation_calm told.1 told.2 place accident ended
  · exact Extraction.says_operation place value {} accident (alone_of_operationAlone ended)

/-- What is settled is there unless an entry is an accident. -/
theorem settled_ends {α κ : Type} [DecidableEq κ] {key : α → κ}
    {verdict : Nat → Value → Except Accident (Verdict α)} {code : DiagnosticCode}
    {places : Nat → String} {extract : Value → Except ExtractionEnd α} {values : List Value}
    (follows : Verdict.Follows verdict code places extract)
    (stops : ∀ value ∈ values, ∀ accident, extract value = .error (.accident accident) →
      Stops entries (.accident accident)) :
    Ends (fun _ => True) (Stops entries) (settled key [] (Verdict.all verdict 0 values)) := by
  unfold settled
  refine .mapError ?_
  -- The verdicts come to an end early only at an entry that is an accident.
  cases ruled : Verdict.all verdict 0 values with
  | error accident =>
    obtain ⟨value, member, ended⟩ := follows.exists_accident ruled
    exact stops value member accident ended
  | ok verdicts => trivial

/-- What a document declares is found unless it stops. -/
theorem extracted_ends (entries : Entries) :
    Ends (fun _ => True) (Stops entries) (extracted entries) := by
  unfold extracted
  refine (topLevelItems_ends Mistaken.types).bind fun types listed => ?_
  refine (settled_ends (typeVerdict_follows "") ?_).bind fun keptTypes _ => ?_
  · exact fun value member accident ended => stops_type listed member ended
  refine (topLevelItems_ends Mistaken.operations).bind fun operations listed => ?_
  refine (settled_ends (operationVerdict_follows "") ?_).bind fun keptOperations _ => trivial
  exact fun value member accident ended => stops_operation listed member ended

/-- What a document declares makes a schema, unless the document is mistaken. -/
theorem assemble_ends {found : Extracted} (extracted : extracted entries = .ok found) :
    Ends (fun _ => True)
      (fun fault => fault.kind = .validation ∧ (Mistaken entries ∨ NamesRoot entries))
      (assemble found (entries.get? "description")) := by
  unfold assemble
  obtain ⟨⟨text, read⟩, -⟩ | ⟨⟨problems, failed⟩, misdescribed⟩ :=
    description_cases (entries.get? "description")
  · rw [read]
    simp only [Reading.below_ok]
    cases made : Schema.make found.types found.operations text with
    | ok schema => trivial
    | error refusal =>
      refine ⟨rfl, .inr (Classical.byContradiction fun absent => ?_)⟩
      -- Without the name of a root type what is declared would make a schema.
      have free : ∀ items, topLevelItems "types" entries = .ok items →
          ∀ item ∈ items, item.At "name" Extraction.IsFreeName :=
        fun items listed item member => Classical.byContradiction fun bound =>
          absent ⟨items, listed, item, member, bound⟩
      obtain ⟨schema, made'⟩ := exists_make_extracted free extracted text
      cases made.symm.trans made'
  · rw [failed]
    exact ⟨rfl, .inl (.description misdescribed)⟩

/-- Entries have a report unless they stop. -/
theorem loadFresh_ends (entries : Entries) :
    Ends (fun _ => True) (Stops entries) (loadFresh entries) := by
  rw [loadFresh_eq]
  unfold reported
  have extracts : Ends (extracted entries = .ok ·) (Stops entries) (extracted entries) :=
    .intro (fun _ found => found) fun _ failed => (extracted_ends entries).of_error failed
  -- Extraction stops at its entries; what has been extracted may still make no schema.
  refine extracts.bind fun found extracted => ?_
  have assembles := assemble_ends extracted
  cases assembled : assemble found (entries.get? "description") with
  | ok schema => trivial
  | error fault =>
    obtain ⟨kind, mistaken⟩ := assembles.of_error assembled
    exact .error (.fault kind mistaken)

/-! ## Contents -/

/-- The text of a content: its bytes encode it, with each end of a line written as a line feed. -/
def HoldsText (content : Option (List UInt8)) (text : List Char) : Prop :=
  ∃ bytes decoded, content = some bytes ∧ Utf8.decode bytes = .ok decoded ∧
    Text.unifyNewlines decoded.toList = text

/-- The entries of a content: its text describes a mapping that has them, or null without any. -/
def HoldsEntries (content : Option (List UInt8)) (entries : Entries) : Prop :=
  ∃ text value, HoldsText content text ∧ Yaml.valueOf text = .ok value ∧
    (value.unfolded = .mapping entries ∨ value.unfolded = .null ∧ entries = [])

/--
Why a content is refused: for one of three faults of loading, because of bytes that are no text, an
escape beyond the last character or a scalar that does not spell its kind, or as its entries are.
-/
inductive Refusal (content : Option (List UInt8)) : Trouble → Prop where
  | missing {fault : Fault} (kind : fault.kind = .load) (absent : content = none) :
    Refusal content (.fault fault)
  | invalid {fault : Fault} (kind : fault.kind = .load) {text : List Char}
    {failure : Yaml.Failure} (held : HoldsText content text)
    (failed : Yaml.valueOf text = .error failure) : Refusal content (.fault fault)
  | shapeless {fault : Fault} (kind : fault.kind = .load) {text : List Char} {value : Value}
    (held : HoldsText content text) (described : Yaml.valueOf text = .ok value)
    (other : ∀ entries, value.unfolded ≠ .mapping entries) : Refusal content (.fault fault)
  | undecodable {bytes : List UInt8} {error : Utf8.Error} (held : content = some bytes)
    (failed : Utf8.decode bytes = .error error) : Refusal content (.accident (.undecodable error))
  | character {text : List Char} {code : Nat} (held : HoldsText content text)
    (escaped : Yaml.HoldsEscape text code) (beyond : 0x10ffff < code) :
    Refusal content (.accident (.character code))
  | scalar {text : List Char} {root part : Yaml.Node} {kind : Yaml.Kind} {spelled : String}
    {accident : Accident} (held : HoldsText content text)
    (read : Yaml.nodeOf text = .ok (some root)) (inside : root.IsPart part)
    (tagged : Yaml.Kind.ofTag? part.tag = some kind) (spells : part.Spells spelled)
    (failed : Yaml.scalarValue kind part spelled = .error (.accident accident)) :
    Refusal content (.accident accident)
  | entries {entries : Entries} {trouble : Trouble} (held : HoldsEntries content entries)
    (stops : Stops entries trouble) : Refusal content trouble

/-- A text without a value is refused. -/
theorem refusal_of_unvalued {text : List Char} {failure : Yaml.Failure}
    (held : HoldsText content text) (failed : Yaml.valueOf text = .error failure) :
    Refusal content (unreadable path text failure) := by
  have unvalued : Yaml.Unvalued text failure := (Yaml.valueOf_ends text).of_error failed
  cases failure with
  | unacceptable found position => exact .invalid rfl held failed
  | fault fault => exact .invalid rfl held failed
  | accident accident =>
    -- What is no fault of the text lies in an escape or in a scalar.
    cases unvalued with
    | read refused =>
      cases refused with
      | character escaped beyond => exact .character held escaped beyond
    | built read misspelled =>
      cases misspelled with
      | scalar inside tagged spells failed =>
        exact .scalar held read inside tagged spells failed

/-- A content has the value of its text, or is refused. -/
theorem readStored_ends (path : Path) (content : Option (List UInt8)) :
    Ends (fun value => ∃ text, HoldsText content text ∧ Yaml.valueOf text = .ok value)
      (Refusal content) (readStored path (content.map .file)) := by
  cases content with
  | none => exact .error (.missing rfl rfl)
  | some bytes =>
    have decodes : Ends (Utf8.decode bytes = .ok ·) (Refusal (some bytes)) (decodedText bytes) :=
      .mapError (.intro (fun _ decoded => decoded) fun _ failed => .undecodable rfl failed)
    -- The text that is described is the decoded one with its line breaks unified.
    refine decodes.bind fun text decoded => .mapError ?_
    have held : HoldsText (some bytes) (Text.unifyNewlines text.toList) :=
      ⟨bytes, text, rfl, decoded, rfl⟩
    refine .intro (fun value described => ⟨_, held, described⟩) fun failure failed => ?_
    exact refusal_of_unvalued held failed

/-- The value of a content has entries, or is no document. -/
theorem documentEntries_ends {text : List Char} {value : Value} (held : HoldsText content text)
    (described : Yaml.valueOf text = .ok value) :
    Ends (HoldsEntries content) (Refusal content) (documentEntries path value) := by
  unfold documentEntries
  split
  · rename_i null
    exact ⟨text, value, held, described, .inr ⟨null, rfl⟩⟩
  · rename_i entries mapping
    exact ⟨text, value, held, described, .inl mapping⟩
  · rename_i unmapped
    exact .error (.shapeless rfl held described unmapped)

end Load

end AppSync
