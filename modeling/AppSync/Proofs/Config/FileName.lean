import AppSync.Proofs.Config.Settings
import AppSync.Proofs.Writing

/-!
File names in settings: which are accepted, and where they lead. A name that is accepted is that of
an entry of the output directory, but for the one that leads to the directory's parent.
-/

namespace AppSync

/-- A name that one entry of a directory can have. -/
structure Path.IsOrdinary (name : String) : Prop where
  filled : name ≠ ""
  undivided : '/' ∉ name.toList
  not_here : name ≠ "."
  not_parent : name ≠ Path.parentMark

/-- The name of a directory's parent is a plain name and no ordinary one; any other one is both. -/
theorem Path.isPlainName_iff_ordinary {name : String} :
    isPlainName name = true ↔ IsOrdinary name ∨ name = parentMark := by
  rw [isPlainName_iff]
  constructor
  · rintro ⟨undivided, filled, not_here⟩
    by_cases up : name = parentMark
    · exact .inr up
    · exact .inl ⟨filled, undivided, not_here, up⟩
  · rintro (ordinary | rfl)
    · exact ⟨ordinary.undivided, ordinary.filled, ordinary.not_here⟩
    · decide +kernel

namespace Config

/-- The keys of settings that name files. -/
def fileNameKeys : List String := ["schema_file_name", "resolver_file_name"]

/-- A table that is read as settings. -/
def IsValid (table : Entries) : Prop := ∃ config, read (.mapping table) = .ok config

/-- A text is read as a file name if it is plain. -/
theorem exists_readPlainName_iff {name : String} :
    (∃ found, readPlainName (.text name) = .ok found) ↔ Path.isPlainName name = true := by
  have written : readPlainName (.text name) =
      Reading.obeying (Path.isPlainName · = true) .notPlainFileName (.ok name) := rfl
  rw [written, Reading.obeying]
  by_cases plain : Path.isPlainName name = true
  · simp [plain]
  · simp [plain, Reading.fail]

variable {table : Entries} {key : String} {value : Value}

/-- What is put in at another key is not found here. -/
theorem finds_set_other {β : Type} {here : String} {read : Value → Reading β} {absent found : β}
    (apart : here ≠ key) (finds : Reading.Finds here read absent table found) :
    Reading.Finds here read absent (table.set (.text key) value) found := by
  unfold Reading.Finds at finds ⊢
  rwa [Entries.get?_set, if_neg apart]

/-- What is put in at a key is found there if it is read. -/
theorem finds_set_iff {β : Type} {read : Value → Reading β} {absent found : β} :
    Reading.Finds key read absent (table.set (.text key) value) found ↔
      read value = .ok found := by
  unfold Reading.Finds
  rw [Entries.get?_set, if_pos rfl]

/-- What is put in at a key is there, or is an entry of before. -/
theorem fst_of_mem_set {entry : Scalar × Value}
    (member : entry ∈ table.set (.text key) value) :
    entry.1 = .text key ∨ entry ∈ table := by
  -- The entry takes the place of the one with its key, or is the last one.
  induction table with
  | nil =>
    rw [Entries.set, List.mem_singleton] at member
    exact .inl (by rw [member])
  | cons first rest ih =>
    rw [Entries.set] at member
    split at member
    · rename_i same
      rcases List.mem_cons.mp member with rfl | later
      · exact .inl (Scalar.sameKey_text.mp same)
      · exact .inr (List.mem_cons_of_mem first later)
    · rcases List.mem_cons.mp member with rfl | later
      · exact .inr List.mem_cons_self
      · exact (ih later).imp_right (List.mem_cons_of_mem first)

/-- Known keys stay known if another known one is added. -/
theorem known_set (inside : key ∈ keys)
    (known : ∀ entry ∈ table, ∃ key ∈ keys, entry.1 = .text key) :
    ∀ entry ∈ table.set (.text key) value, ∃ key ∈ keys, entry.1 = .text key := by
  intro entry member
  rcases fst_of_mem_set member with same | before
  · exact ⟨key, inside, same⟩
  · exact known entry before

/-- A file name is accepted in a valid table if it is plain. -/
theorem isValid_set_iff (valid : IsValid table) (inside : key ∈ fileNameKeys) (name : String) :
    IsValid (table.set (.text key) (.text name)) ↔ Path.isPlainName name = true := by
  obtain ⟨config, found⟩ := valid
  have overlays : Overlays table config := read_eq_ok_iff.mp found
  rw [← exists_readPlainName_iff]
  unfold IsValid
  simp only [read_eq_ok_iff]
  simp only [fileNameKeys, List.mem_cons, List.not_mem_nil, or_false] at inside
  -- The other settings are found as before, whichever of the two names is put in.
  rcases inside with rfl | rfl
  · constructor
    · rintro ⟨changed, settings⟩
      exact ⟨_, finds_set_iff.mp settings.schemaFileName⟩
    rintro ⟨plain, read⟩
    exact ⟨{ config with schemaFileName := plain }, known_set (by decide) overlays.known,
      finds_set_iff.mpr read, finds_set_other (by decide) overlays.resolverFileName,
      finds_set_other (by decide) overlays.outputDirectory,
      finds_set_other (by decide) overlays.schemaDescription,
      finds_set_other (by decide) overlays.strictDataSources,
      finds_set_other (by decide) overlays.validateSdl⟩
  · constructor
    · rintro ⟨changed, settings⟩
      exact ⟨_, finds_set_iff.mp settings.resolverFileName⟩
    rintro ⟨plain, read⟩
    exact ⟨{ config with resolverFileName := plain }, known_set (by decide) overlays.known,
      finds_set_other (by decide) overlays.schemaFileName, finds_set_iff.mpr read,
      finds_set_other (by decide) overlays.outputDirectory,
      finds_set_other (by decide) overlays.schemaDescription,
      finds_set_other (by decide) overlays.strictDataSources,
      finds_set_other (by decide) overlays.validateSdl⟩

end Config

namespace Writing

variable {tree : FileTree} {tags : Tags} {artifacts : Artifacts} {directory : Path}
  {config : Config} {document : Document}

/-- Where a target leads from the directory that the output path leads to, if it leads anywhere. -/
def LeadsFrom (tree : FileTree) (directory target : Path)
    (onward : List String → List String) : Prop :=
  ∀ key, tree.locate target = .ok key →
    ∃ parent, tree.locate directory = .ok parent ∧ tree.get? parent = some .directory ∧
      key = onward parent

/-- The target of a document is an entry of the output directory with a plain name. -/
theorem target_of_mem_documents (member : document ∈ documents tags artifacts directory config) :
    ∃ name : PlainName, document.target = directory.below name.1 := by
  rcases List.mem_cons.mp member with rfl | member
  · exact ⟨config.schemaFileName, Path.entry_plainName _ _⟩
  · rw [List.mem_singleton.mp member]
    exact ⟨config.resolverFileName, Path.entry_plainName _ _⟩

/-- An entry is one name further than its directory. -/
theorem leadsFrom_below (rooted : tree.IsRooted) (name : String) :
    LeadsFrom tree directory (directory.below name) (FileTree.entered · name) := by
  intro key found
  obtain ⟨-, -, parent, located, stands, entry⟩ := (FileTree.locate_below rooted).mp found
  exact ⟨parent, located, stands, entry⟩

/-- How the target of a document stands to the output directory. -/
inductive Belongs (tree : FileTree) (directory target : Path) : Prop
  /-- It is an entry of the directory. -/
  | inside (own : target.parent = directory) (ordinary : Path.IsOrdinary target.name)
    (leads : LeadsFrom tree directory target (· ++ [target.name]))
  /-- It is the parent of the directory. -/
  | above (own : target.parent = directory) (up : target.name = Path.parentMark)
    (leads : LeadsFrom tree directory target List.dropLast)

/--
A file name is accepted exactly if it is an ordinary one or that of a directory's parent, and under
settings that are accepted the targets are entries of the output directory, or its parent.
-/
theorem fileName_belongs {table : Entries} {key : String} (valid : Config.IsValid table)
    (inside : key ∈ Config.fileNameKeys) (name : String) (rooted : tree.IsRooted) :
    (Config.IsValid (table.set (.text key) (.text name)) ↔
      Path.IsOrdinary name ∨ name = Path.parentMark) ∧
    ∀ tags artifacts directory config, ∀ document ∈ documents tags artifacts directory config,
      Belongs tree directory document.target := by
  refine ⟨(Config.isValid_set_iff valid inside name).trans Path.isPlainName_iff_ordinary, ?_⟩
  intro tags artifacts directory config document member
  obtain ⟨plain, target⟩ := target_of_mem_documents member
  have leads : LeadsFrom tree directory (directory.below plain.1) (FileTree.entered · plain.1) :=
    leadsFrom_below rooted plain.1
  rw [target]
  -- Of the plain names only one does not lead down.
  rcases Path.isPlainName_iff_ordinary.mp plain.2 with ordinary | up
  · refine .inside (Path.below_parent _ _) (by rwa [Path.below_name]) ?_
    simpa only [FileTree.entered, if_neg ordinary.not_parent, Path.below_name] using leads
  · refine .above (Path.below_parent _ _) (by rwa [Path.below_name]) ?_
    simpa only [FileTree.entered, if_pos up] using leads

/-- Settings with a description only, to which a name with points at both ends is added. -/
theorem fileName_belongs_pointed :
    let table : Entries := [(.text "schema_description", .text "API")]
    (Config.IsValid (table.set (.text "resolver_file_name") (.text ".api..")) ↔
      Path.IsOrdinary ".api.." ∨ ".api.." = Path.parentMark) ∧
    ∀ tags artifacts directory config, ∀ document ∈ documents tags artifacts directory config,
      Belongs FileTree.empty directory document.target := by
  have valid : Config.IsValid [(.text "schema_description", .text "API")] :=
    ⟨{ schemaDescription := some "API" }, by decide +kernel⟩
  exact fileName_belongs valid (by decide) ".api.." (by decide +kernel)

/-- Settings under which the schema is written to the parent of the output directory. -/
def parentName : Config := { schemaFileName := ⟨Path.parentMark, by decide +kernel⟩ }

/-- The name of a directory's parent is accepted, and a target is no entry of the directory then. -/
theorem fileName_parent :
    Config.read (.mapping [(.text "schema_file_name", .text "..")]) = .ok parentName ∧
      ¬Path.IsOrdinary ".." ∧
      ∀ tags artifacts, ∃ document ∈ documents tags artifacts out parentName,
        blockedTree.locate document.target = .ok FileTree.home ∧
          blockedTree.locate out = .ok (FileTree.home ++ ["out"]) := by
  have above : blockedTree.locate (out.entry "..") = .ok FileTree.home := by decide +kernel
  have here : blockedTree.locate out = .ok (FileTree.home ++ ["out"]) := by decide +kernel
  exact ⟨by decide +kernel, fun ordinary => ordinary.not_parent rfl,
    fun tags artifacts => ⟨_, List.mem_cons_self, above, here⟩⟩

end Writing

end AppSync
