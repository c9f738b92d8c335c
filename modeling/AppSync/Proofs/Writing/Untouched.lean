import AppSync.Proofs.Source.Cache
import AppSync.Proofs.Writing

/-!
What writing leaves alone: everything but the two targets and the directories on the way to them,
however the run ends.
-/

namespace AppSync.Writing

open FileTree (disk run_bind SameBut OnTheWay Grown)

variable {origin tree after : FileTree} {staged waiting : List Document} {key : List String}

/-- Discarding stores nothing. -/
theorem discard_less (run : (discard disk waiting).run tree = ((), after)) (key : List String) :
    after.get? key = tree.get? key ∨ after.get? key = none := by
  -- Each document either stays or is taken away.
  induction waiting generalizing tree with
  | nil =>
    obtain ⟨-, rfl⟩ := Prod.mk.inj run
    exact .inl rfl
  | cons document rest ih =>
    obtain ⟨reply, middle, performed, next⟩ := run_bind run
    rcases ih next with same | gone
    · rcases FileTree.perform_remove performed with rfl | ⟨taken, bytes, -, stands, rfl⟩
      · exact .inl same
      · rw [FileTree.get?_erase] at same
        split at same
        · exact .inr same
        · exact .inl same
    · exact .inr gone

/-- No file stands where a document was staged that is discarded. -/
theorem discard_gone (run : (discard disk waiting).run tree = ((), after))
    (held : IsStaged tree waiting key) (bytes : List UInt8) :
    after.get? key ≠ some (.file bytes) := by
  induction waiting generalizing tree with
  | nil =>
    obtain ⟨document, inside, -⟩ := held
    cases inside
  | cons document rest ih =>
    obtain ⟨reply, middle, performed, next⟩ := run_bind run
    obtain ⟨same, gone⟩ := FileTree.perform_remove_effect performed
    obtain ⟨held_document, inside, found⟩ := held
    rcases List.mem_cons.mp inside with rfl | later
    · -- What is taken away first does not come back.
      rcases discard_less next key with kept | none
      · rw [kept]
        exact gone key found bytes
      · simp [none]
    · exact ih next ⟨held_document, later, same.locate_iff.mpr found⟩

/-- The places where documents belong. -/
def IsGoal (tree : FileTree) (waiting : List Document) (key : List String) : Prop :=
  ∃ document ∈ waiting, tree.locate document.target = .ok key

section Places

variable {names : List String → Prop}

/-- Documents are staged in the same places where only files differ. -/
theorem isStaged_iff (same : SameBut names tree after) :
    IsStaged after waiting key ↔ IsStaged tree waiting key := by
  unfold IsStaged
  simp only [same.locate_iff]

/-- Documents belong to the same places where only files differ. -/
theorem isGoal_iff (same : SameBut names tree after) :
    IsGoal after waiting key ↔ IsGoal tree waiting key := by
  unfold IsGoal
  simp only [same.locate_iff]

end Places

/-- Where nothing stood and no file stands, nothing stands, unless directories differ. -/
theorem free_of_no_file {names : List String → Prop} (same : SameBut names tree after)
    (free : tree.get? key = none) (no_file : ∀ bytes, after.get? key ≠ some (.file bytes)) :
    after.get? key = none := by
  cases stands : after.get? key with
  | none => rfl
  | some stored =>
    cases stored with
    | file bytes => exact absurd stands (no_file bytes)
    | directory => exact nomatch ((same.directories key).mp stands).symm.trans free

/-- A tree that differs from an earlier one in files alone, all of them new and staged. -/
structure Fresh (origin tree : FileTree) (staged : List Document) : Prop where
  free : ∀ key, IsStaged origin staged key → origin.get? key = none
  same : SameBut (IsStaged origin staged) origin tree

namespace Fresh

/-- Nothing is staged to begin with. -/
theorem refl (tree : FileTree) : Fresh tree tree [] := by
  refine ⟨fun key held => ?_, .refl _ _⟩
  obtain ⟨document, inside, -⟩ := held
  cases inside

/-- What is free is what was free before. -/
theorem free_before (fresh : Fresh origin tree staged) (free : tree.get? key = none) :
    origin.get? key = none := by
  by_cases held : IsStaged origin staged key
  · exact fresh.free key held
  · rw [← fresh.same.elsewhere key held, free]

/-- Without its new files the tree is as it was. -/
theorem discard (fresh : Fresh origin tree staged)
    (run : (discard disk staged).run tree = ((), after)) (key : List String) :
    after.get? key = origin.get? key := by
  have held_iff (key : List String) : IsStaged tree staged key ↔ IsStaged origin staged key :=
    isStaged_iff fresh.same
  have discarded : SameBut (IsStaged origin staged) tree after :=
    (discard_same run).mono fun key => (held_iff key).mp
  by_cases held : IsStaged origin staged key
  · -- Nothing stood there, and no file does in the end.
    have same := fresh.same.trans discarded
    rw [fresh.free key held]
    exact free_of_no_file same (fresh.free key held) (discard_gone run ((held_iff key).mpr held))
  · rw [discarded.elsewhere key held, fresh.same.elsewhere key held]

/-- One more document is staged where nothing stands. -/
theorem concat {document : Document} (fresh : Fresh origin tree staged)
    (found : tree.locate document.staged = .ok key) (free : tree.get? key = none)
    (bytes : List UInt8) :
    Fresh origin (tree.set key (.file bytes)) (staged ++ [document]) := by
  have located := fresh.same.locate_iff.mp found
  -- Either it is the new file that is asked about, or one that was staged before.
  constructor
  · rintro other ⟨held, inside, place⟩
    rcases List.mem_append.mp inside with earlier | last
    · exact fresh.free other ⟨held, earlier, place⟩
    · obtain rfl := List.mem_singleton.mp last
      obtain rfl : key = other := Except.ok.inj (located.symm.trans place)
      exact fresh.free_before free
  · refine (fresh.same.mono ?_).trans ((SameBut.set (by simp [free]) bytes).mono ?_)
    · rintro other ⟨held, inside, place⟩
      exact ⟨held, List.mem_append_left _ inside, place⟩
    · rintro _ rfl
      exact ⟨document, by simp, located⟩

end Fresh

/-- A document that no text and no name keeps from being staged. -/
structure IsStageable (document : Document) : Prop where
  text : Text.unencodableHalves? document.text = none
  names : ∀ name ∈ document.staged.components, '\x00' ∉ name.toList

/-- Staging leaves new files, or none where it fails. -/
theorem Fresh.stage {result : Staging} (fresh : Fresh origin tree staged)
    (stageable : ∀ document ∈ waiting, IsStageable document)
    (run : (stage disk staged waiting).run tree = (result, after)) :
    (result = .complete ∧ Fresh origin after (staged ++ waiting)) ∨
      (result = .failed ∧ ∀ key, after.get? key = origin.get? key) := by
  -- The run goes on after a new file, and takes all of them away after a refusal.
  induction waiting generalizing tree staged with
  | nil =>
    obtain ⟨rfl, rfl⟩ := Prod.mk.inj run
    exact .inl ⟨rfl, by simpa using fresh⟩
  | cons document rest ih =>
    have ready := stageable document (.head _)
    obtain ⟨reply, middle, performed, next⟩ := run_bind run
    rcases FileTree.perform_create performed with ⟨undone, rfl⟩ | ⟨rfl, key, found, free, rfl⟩
    · cases reply with
      | done => exact (undone rfl).elim
      | nulInPath =>
        obtain ⟨name, inside, nul⟩ :=
          FileTree.perform_create_nulInPath.mp (congrArg Prod.fst performed)
        exact (ready.names name inside nul).elim
      | _ =>
        obtain ⟨_, _, discarded, last⟩ := run_bind next
        obtain ⟨rfl, rfl⟩ := Prod.mk.inj last
        exact .inr ⟨rfl, fresh.discard discarded⟩
    · dsimp only at next
      rw [ready.text] at next
      have stored := ih (fresh.concat found free _)
        (fun other later => stageable other (.tail _ later)) next
      rwa [List.append_assoc, List.singleton_append] at stored

/-- A file that moves leaves nothing where it was, unless it was where it belongs. -/
theorem gone_of_moves {source target : Path} {start goal : List String} {bytes : List UInt8}
    (moves : tree.Moves source target start goal bytes) (apart : start ≠ goal) :
    ((tree.erase start).set goal (.file bytes)).get? start = none := by
  have named : start ≠ [] := FileTree.ne_nil_of_get? moves.stands (by simp)
  simp [FileTree.get?_set, FileTree.get?_erase, apart, named]

/-- Placing concerns staged files and their goals, and leaves no staged file unless it fails. -/
theorem place_effect {created : List Path} {written : Written}
    (run : (place disk created waiting).run tree = (written, after)) :
    SameBut (fun key => IsStaged tree waiting key ∨ IsGoal tree waiting key) tree after ∧
      (written.hasFailed = false → ∀ key, IsStaged tree waiting key →
        ¬IsGoal tree waiting key → after.get? key = none) := by
  -- A document that moves is followed by the others; one that is stuck ends the run.
  induction waiting generalizing tree created with
  | nil =>
    obtain ⟨rfl, rfl⟩ := Prod.mk.inj run
    refine ⟨.refl _ _, fun _ key held _ => ?_⟩
    obtain ⟨document, inside, -⟩ := held
    cases inside
  | cons document rest ih =>
    rcases place_cons run with ⟨rfl, rfl, -⟩ | ⟨start, goal, bytes, moves, next⟩
    · exact ⟨.refl _ _, nofun⟩
    · obtain ⟨others, gone⟩ := ih next
      have moved := moves.same
      simp only [isStaged_iff moved, isGoal_iff moved] at others gone
      have later_goal {key : List String} (belongs : IsGoal tree rest key) :
          IsGoal tree (document :: rest) key :=
        belongs.imp fun other held => ⟨.tail _ held.1, held.2⟩
      refine ⟨(moved.mono ?_).trans (others.mono ?_), fun succeeded key held elsewhere => ?_⟩
      · rintro key (rfl | rfl)
        · exact .inl ⟨document, .head _, moves.source⟩
        · exact .inr ⟨document, .head _, moves.target⟩
      · rintro key (⟨other, inside, found⟩ | belongs)
        · exact .inl ⟨other, .tail _ inside, found⟩
        · exact .inr (later_goal belongs)
      · by_cases later : IsStaged tree rest key
        · exact gone succeeded key later (mt later_goal elsewhere)
        · -- The file was staged for the document that has moved first.
          obtain ⟨other, inside, found⟩ := held
          rcases List.mem_cons.mp inside with rfl | further
          · obtain rfl : start = key := Except.ok.inj (moves.source.symm.trans found)
            have apart : start ≠ goal := by
              rintro rfl
              exact elsewhere ⟨other, .head _, moves.target⟩
            rw [others.elsewhere start (not_or.mpr ⟨later, mt later_goal elsewhere⟩),
              gone_of_moves moves apart]
          · exact absurd ⟨other, further, found⟩ later

/--
What was staged is gone in the end, unless it was staged where a document belongs: after a success it
has moved, and else it is discarded.
-/
theorem gone_of_placed {created : List Path} {written : Written} {placed : FileTree}
    (placing : (place disk created waiting).run tree = (written, placed))
    (ended : (written.hasFailed = true ∧ (discard disk waiting).run placed = ((), after)) ∨
      (written.hasFailed = false ∧ after = placed)) :
    SameBut (fun key => IsStaged tree waiting key ∨ IsGoal tree waiting key) tree after ∧
      ∀ key, IsStaged tree waiting key → ¬IsGoal tree waiting key →
        ∀ bytes, after.get? key ≠ some (.file bytes) := by
  obtain ⟨same, gone⟩ := place_effect placing
  -- A failure discards what is staged, and a success leaves none of it behind.
  rcases ended with ⟨-, discarded⟩ | ⟨succeeded, rfl⟩
  · refine ⟨same.trans ((discard_same discarded).mono fun key held =>
      .inl ((isStaged_iff same).mp held)), fun key held _ => ?_⟩
    exact discard_gone discarded ((isStaged_iff same).mpr held)
  · refine ⟨same, fun key held elsewhere => ?_⟩
    simp [gone succeeded key held elsewhere]

/-- Storing concerns the places where the documents belong, however it ends. -/
theorem store_same {outcome : Except Trouble Written}
    (stageable : ∀ document ∈ waiting, IsStageable document)
    (run : (store disk waiting).run tree = (outcome, after)) :
    SameBut (IsGoal tree waiting) tree after := by
  obtain ⟨result, middle, staging, next⟩ := run_bind run
  rcases (Fresh.refl tree).stage stageable staging with ⟨rfl, fresh⟩ | ⟨rfl, undone⟩
  · rw [List.nil_append] at fresh
    obtain ⟨written, placed, placing, final⟩ := run_bind next
    have ended : (written.hasFailed = true ∧ (discard disk waiting).run placed = ((), after)) ∨
        (written.hasFailed = false ∧ after = placed) := by
      cases failed : written.hasFailed with
      | true =>
        rw [failed] at final
        obtain ⟨_, _, discarded, last⟩ := run_bind
          (show (discard disk waiting >>= fun _ => pure (.ok written)).run placed =
            (outcome, after) from final)
        obtain ⟨rfl, rfl⟩ := Prod.mk.inj last
        exact .inl ⟨rfl, discarded⟩
      | false =>
        rw [failed] at final
        obtain ⟨rfl, rfl⟩ := Prod.mk.inj final
        exact .inr ⟨rfl, rfl⟩
    -- Seen from before the staging, the staged places are free, and so they are in the end.
    obtain ⟨same, gone⟩ := gone_of_placed placing ended
    simp only [isStaged_iff fresh.same, isGoal_iff fresh.same] at same gone
    have whole : SameBut (fun key => IsStaged tree waiting key ∨ IsGoal tree waiting key)
        tree after := (fresh.same.mono fun _ => .inl).trans same
    refine ⟨fun key elsewhere => ?_, whole.directories⟩
    by_cases held : IsStaged tree waiting key
    · have free := fresh.free key held
      rw [free]
      exact free_of_no_file whole free (gone key held elsewhere)
    · exact whole.elsewhere key (not_or.mpr ⟨held, elsewhere⟩)
  · obtain ⟨rfl, rfl⟩ := Prod.mk.inj next
    exact ⟨fun key _ => undone key, fun key => by rw [undone key]⟩

/-- Nothing changes where the first document has the character of code zero in its path. -/
theorem store_of_nul {document : Document} {rest : List Document}
    {outcome : Except Trouble Written}
    (nul : ∃ name ∈ document.staged.components, '\x00' ∈ name.toList)
    (run : (store disk (document :: rest)).run tree = (outcome, after)) : after = tree := by
  obtain ⟨result, middle, staging, next⟩ := run_bind run
  obtain ⟨reply, created, performed, last⟩ := run_bind staging
  obtain rfl : reply = .nulInPath :=
    (congrArg Prod.fst performed).symm.trans (FileTree.perform_create_nulInPath.mpr nul)
  -- The run ends with the first reply, before anything is stored.
  obtain ⟨-, rfl⟩ | ⟨done, -⟩ := FileTree.perform_create performed
  · obtain ⟨rfl, rfl⟩ := Prod.mk.inj last
    obtain ⟨-, rfl⟩ := Prod.mk.inj next
    rfl
  · cases done

section Pair

variable {tags : Tags} {artifacts : Artifacts} {directory : Path} {config : Config}

/--
A pair that is stored whole once its directory is there: texts of whole characters, and no character
of code zero in the name of the second document, unless that of the first keeps both away.
-/
structure IsStorable (tags : Tags) (artifacts : Artifacts) (config : Config) : Prop where
  schema_whole : Text.hasHalves artifacts.sdl = false
  manifest_whole : Text.hasHalves artifacts.manifest = false
  schema_tag : '\x00' ∉ tags.schema.toList
  manifest_tag : '\x00' ∉ tags.manifest.toList
  names : '\x00' ∈ config.schemaFileName.1.toList ∨ '\x00' ∉ config.resolverFileName.1.toList

/-- The places of the two targets. -/
def IsTarget (tree : FileTree) (directory : Path) (config : Config) (key : List String) : Prop :=
  tree.locate (directory.entry config.schemaFileName.1) = .ok key ∨
    tree.locate (directory.entry config.resolverFileName.1) = .ok key

/-- The documents of a pair belong to its targets. -/
theorem isGoal_documents : IsGoal tree (documents tags artifacts directory config) key ↔
    IsTarget tree directory config key := by
  simp [IsGoal, IsTarget, documents, documentFor]

/-- A document with a whole text and clear names can be staged in a directory that stands. -/
theorem isStageable_documentFor {name : PlainName} {tag text : String}
    (stands : tree.standing directory = some .directory) (plain : '/' ∉ tag.toList)
    (whole : Text.hasHalves text = false) (clear_name : '\x00' ∉ name.1.toList)
    (clear_tag : '\x00' ∉ tag.toList) : IsStageable (documentFor directory name tag text) := by
  obtain ⟨place, found, -⟩ := FileTree.locate_of_standing stands
  have writable := (FileTree.locate_eq_ok.mp found).1
  -- Its path is the one of the directory with a name of clear parts behind it.
  rw [documentFor_eq plain]
  refine ⟨Source.unencodableHalves?_eq_none whole, fun part inside nul => ?_⟩
  rcases List.mem_append.mp inside with above | last
  · exact writable.1 part above nul
  · obtain rfl := List.mem_singleton.mp last
    simp [stagedName, clear_name, clear_tag] at nul

/-- Storing a pair in a directory that stands concerns the two targets. -/
theorem store_documents {outcome : Except Trouble Written}
    (stands : tree.standing directory = some .directory) (apart : tags.Apart config)
    (storable : IsStorable tags artifacts config)
    (run : (store disk (documents tags artifacts directory config)).run tree = (outcome, after)) :
    SameBut (IsTarget tree directory config) tree after := by
  by_cases nul : '\x00' ∈ config.schemaFileName.1.toList
  · -- The name of the first document keeps both from being stored.
    have refused : ∃ name ∈ (documentFor directory config.schemaFileName tags.schema
        artifacts.sdl).staged.components, '\x00' ∈ name.toList := by
      rw [documentFor_eq apart.schema_plain]
      exact ⟨_, List.mem_append_right _ (List.mem_singleton_self _),
        subset_stagedName _ _ nul⟩
    obtain rfl := store_of_nul refused run
    exact .refl _ _
  · refine (store_same ?_ run).mono fun key => isGoal_documents.mp
    have second := storable.names.resolve_left nul
    intro document inside
    simp only [documents, List.mem_cons, List.not_mem_nil, or_false] at inside
    rcases inside with rfl | rfl
    · exact isStageable_documentFor stands apart.schema_plain storable.schema_whole nul
        storable.schema_tag
    · exact isStageable_documentFor stands apart.manifest_plain storable.manifest_whole second
        storable.manifest_tag

/-- A run gains directories on the way to its own, and then concerns its targets only. -/
theorem write_effect {outcome : Except Trouble Written} (rooted : tree.IsRooted)
    (apart : tags.Apart config) (storable : IsStorable tags artifacts config)
    (run : (write disk tags artifacts directory config).run tree = (outcome, after)) :
    ∃ middle, middle.IsRooted ∧ Grown (OnTheWay middle directory) tree middle ∧
      SameBut (IsTarget middle directory config) middle after := by
  have grown {made : Option Accident} {middle : FileTree}
      (making : (disk.makeDirectories directory).run tree = (made, middle)) :
      Grown (OnTheWay middle directory) tree middle := by
    have gained := Grown.all making
    rwa [List.reverse_reverse] at gained
  -- Nothing was made, the directory could not be made, or it was and documents followed.
  rcases write_makes run with ⟨-, rfl | ⟨accident, making⟩⟩ | ⟨middle, making, storing⟩
  · exact ⟨after, rooted, .refl _ _, .refl _ _⟩
  · exact ⟨after, (makes_directory rooted making).rooted, grown making, .refl _ _⟩
  · have makes := makes_directory rooted making
    exact ⟨middle, makes.rooted, grown making,
      store_documents (makes.stands.mp rfl) apart storable storing⟩

/-- A path to the same directory, by way of another one. -/
def detour : Path := ⟨"", ["build", "..", "out"]⟩

/-- Settings with the character of code zero in the name of the second document. -/
def nulName : Config := { resolverFileName := ⟨"a\x00b", by decide +kernel⟩ }

end Pair

end AppSync.Writing
