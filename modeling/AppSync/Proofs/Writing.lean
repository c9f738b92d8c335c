import AppSync.Writing
import AppSync.Proofs.FileTree.Directories

/-!
What writing does to a tree of files: what it leaves of a run that fails, and what it stores in one
that does not.
-/

namespace AppSync.Writing

open FileTree (disk run_bind run_perform SameBut Moves)

variable {tree after : FileTree} {key : List String}

/-- The names under which documents are staged. -/
def IsStaged (tree : FileTree) (documents : List Document) (key : List String) : Prop :=
  ∃ document ∈ documents, tree.locate document.staged = .ok key

/-- Only staged files are discarded. -/
theorem discard_same {documents : List Document}
    (run : (discard disk documents).run tree = ((), after)) :
    SameBut (IsStaged tree documents) tree after := by
  -- What one document is staged under stays the same while the others are discarded.
  induction documents generalizing tree with
  | nil =>
    obtain ⟨-, rfl⟩ := Prod.mk.inj run
    exact .refl _ _
  | cons document rest ih =>
    obtain ⟨reply, middle, performed, next⟩ := run_bind run
    -- The file that is taken away is the one that was staged first.
    have first : SameBut (IsStaged tree (document :: rest)) tree middle := by
      rcases FileTree.perform_remove performed with rfl | ⟨key, bytes, found, stands, rfl⟩
      · exact .refl _ _
      · refine (SameBut.erase stands).mono ?_
        rintro _ rfl
        exact ⟨document, .head _, found⟩
    refine first.trans ((ih next).mono ?_)
    rintro key ⟨other, inside, found⟩
    exact ⟨other, .tail _ inside, first.locate_iff.mp found⟩

/-- How documents stand after all of them were staged. -/
structure Staged (before after : FileTree) (documents : List Document) : Prop where
  /-- Nothing that stood is lost. -/
  kept : ∀ key stored, before.get? key = some stored → after.get? key = some stored
  /-- Each document has a new file to itself. -/
  stored : ∀ document ∈ documents, ∃ key, before.locate document.staged = .ok key ∧
    before.get? key = none ∧ after.get? key = some (.file (Utf8.encode document.text))
  apart : documents.Pairwise fun first second => ∀ key, before.locate first.staged = .ok key →
    before.locate second.staged ≠ .ok key

/-- An encoder complains about texts with characters that it lacks. -/
theorem all_of_unencodable?_eq_none {encoding reason : String} {isEncodable : Char → Bool}
    {text : List Char} (silent : Text.unencodable? encoding reason isEncodable text = none) :
    ∀ c ∈ text, isEncodable c = true := by
  -- The first character that is lacking would be the subject of the complaint.
  have none_lacking : text.dropWhile isEncodable = [] := by
    cases lacking : text.dropWhile isEncodable with
    | nil => rfl
    | cons c rest =>
      have lacks := List.head?_dropWhile_not isEncodable text
      simp only [lacking, List.head?_cons] at lacks
      simp only [Text.unencodable?, lacking, List.takeWhile_cons, lacks] at silent
      split at silent <;> simp_all
  have whole := List.takeWhile_append_dropWhile (p := isEncodable) (l := text)
  rw [none_lacking, List.append_nil] at whole
  rw [← whole]
  exact List.all_eq_true.mp List.all_takeWhile

/-- A text about which the encoder does not complain is stored as a whole. -/
theorem storedBytes_of_encodable {document : Document}
    (encodable : Text.unencodableHalves? document.text = none) :
    storedBytes document = Utf8.encode document.text := by
  have whole := all_of_unencodable?_eq_none encodable
  simp only [Bool.not_eq_true'] at whole
  have clear : Text.hasHalves document.text = false :=
    List.any_eq_false.mpr fun c inside => by simp [whole c inside]
  simp [storedBytes, clear]

/-- A document that is stored before the others are staged has a file to itself as well. -/
theorem Staged.cons {document : Document} {rest : List Document}
    (found : tree.locate document.staged = .ok key) (free : tree.get? key = none)
    (others : Staged (tree.set key (.file (Utf8.encode document.text))) after rest) :
    Staged tree after (document :: rest) := by
  have named : key ≠ [] := FileTree.ne_nil_of_get? free (by simp)
  have same : SameBut (· = key) tree (tree.set key (.file (Utf8.encode document.text))) :=
    .set (by simp [free]) _
  -- The other files are new after the first one, so they are not the same file.
  have new : ∀ other ∈ rest, ∃ place, tree.locate other.staged = .ok place ∧ place ≠ key ∧
      tree.get? place = none ∧ after.get? place = some (.file (Utf8.encode other.text)) := by
    intro other inside
    obtain ⟨place, located, unused, stands⟩ := others.stored other inside
    have differs : place ≠ key := by
      rintro rfl
      simp [FileTree.get?_set, named] at unused
    refine ⟨place, same.locate_iff.mp located, differs, ?_, stands⟩
    exact (same.elsewhere place differs).symm.trans unused
  refine ⟨fun place stored stands => others.kept place stored ?_, ?_, ?_⟩
  · -- What stood before is not where the new file is, since nothing stood there.
    rw [same.elsewhere place, stands]
    rintro rfl
    cases stands.symm.trans free
  · intro other inside
    rcases List.mem_cons.mp inside with rfl | later
    · exact ⟨key, found, free, others.kept key _ (by simp [FileTree.get?_set, named])⟩
    · obtain ⟨place, located, -, unused, stands⟩ := new other later
      exact ⟨place, located, unused, stands⟩
  · -- The first file is apart from the others, and these are apart as they were.
    refine .cons (fun other later place own also => ?_) (others.apart.imp ?_)
    · obtain ⟨taken, located, differs, -⟩ := new other later
      obtain rfl : key = place := Except.ok.inj (found.symm.trans own)
      exact differs (Except.ok.inj (located.symm.trans also))
    · intro first second apart place own also
      exact apart place (same.locate_iff.mpr own) (same.locate_iff.mpr also)

/-- Staging concerns staged files only; where it is complete each document has one. -/
theorem stage_effect {staged documents : List Document} {result : Staging}
    (run : (stage disk staged documents).run tree = (result, after)) :
    SameBut (IsStaged tree (staged ++ documents)) tree after ∧
      (result = .complete → Staged tree after documents) := by
  -- The run goes on after a new file only; any other reply ends it.
  induction documents generalizing tree staged with
  | nil =>
    obtain ⟨rfl, rfl⟩ := Prod.mk.inj run
    exact ⟨.refl _ _, fun _ => ⟨fun _ _ stands => stands, List.forall_mem_nil _, .nil⟩⟩
  | cons document rest ih =>
    obtain ⟨reply, middle, performed, next⟩ := run_bind run
    rcases FileTree.perform_create performed with ⟨undone, rfl⟩ | ⟨rfl, key, found, free, rfl⟩
    · -- Nothing was stored, and what was staged before is taken away at most.
      have ended : result ≠ .complete ∧
          SameBut (IsStaged middle (staged ++ document :: rest)) middle after := by
        cases reply with
        | done => exact (undone rfl).elim
        | nulInPath =>
          obtain ⟨rfl, rfl⟩ := Prod.mk.inj next
          exact ⟨by simp, .refl _ _⟩
        | _ =>
          obtain ⟨_, _, discarded, last⟩ := run_bind next
          obtain ⟨rfl, rfl⟩ := Prod.mk.inj last
          refine ⟨by simp, (discard_same discarded).mono ?_⟩
          rintro key ⟨other, inside, found⟩
          exact ⟨other, List.mem_append_left _ inside, found⟩
      exact ⟨ended.2, fun complete => (ended.1 complete).elim⟩
    · -- The document has a new file, and the others are staged after it.
      have first : SameBut (IsStaged tree (staged ++ document :: rest)) tree
          (tree.set key (.file (storedBytes document))) := by
        refine (SameBut.set (by simp [free]) _).mono ?_
        rintro _ rfl
        exact ⟨document, by simp, found⟩
      dsimp only at next
      split at next
      · -- A text that cannot be encoded ends the run with its file half written.
        obtain ⟨rfl, rfl⟩ := Prod.mk.inj next
        exact ⟨first, by simp⟩
      · rename_i encodable
        obtain ⟨others, complete⟩ := ih next
        refine ⟨first.trans (others.mono ?_), fun ended => ?_⟩
        · rintro key ⟨other, inside, found⟩
          exact ⟨other, by simpa using inside, first.locate_iff.mp found⟩
        · rw [storedBytes_of_encodable encodable] at complete
          exact .cons found free (complete ended)

/-- A document takes its place and the others follow, or nothing changes. -/
theorem place_cons {created : List Path} {document : Document} {rest : List Document}
    {written : Written}
    (run : (place disk created (document :: rest)).run tree = (written, after)) :
    (written = ⟨created, true⟩ ∧ after = tree ∧
        ∀ start goal bytes, ¬tree.Moves document.staged document.target start goal bytes) ∨
      ∃ start goal bytes, tree.Moves document.staged document.target start goal bytes ∧
        (place disk (created ++ [document.target]) rest).run
          ((tree.erase start).set goal (.file bytes)) = (written, after) := by
  -- The first document is moved, and the reply decides whether the run goes on.
  obtain ⟨reply, middle, performed, next⟩ := run_bind run
  rcases FileTree.perform_rename performed with
    ⟨undone, rfl, stuck⟩ | ⟨rfl, start, goal, bytes, moves, rfl⟩
  · have ended : (⟨created, true⟩, middle) = (written, after) := by
      cases reply <;> first | exact next | exact (undone rfl).elim
    obtain ⟨rfl, rfl⟩ := Prod.mk.inj ended
    exact .inl ⟨rfl, rfl, stuck⟩
  · exact .inr ⟨start, goal, bytes, moves, next⟩

/-- Documents that are staged beside their targets. -/
structure SideBySide (tree : FileTree) (documents : List Document) : Prop where
  /-- No document is staged where one of them belongs. -/
  apart : ∀ document ∈ documents, ∀ key, IsStaged tree documents key →
    tree.locate document.target ≠ .ok key
  /-- The target of a document can be followed where it can be staged. -/
  follows : ∀ document ∈ documents, ∀ key, tree.locate document.staged = .ok key →
    ∃ place, tree.locate document.target = .ok place

/-- What stands at the targets stays where only staged files are concerned. -/
theorem SideBySide.standing_eq {documents : List Document} {document : Document}
    (beside : SideBySide tree documents) (inside : document ∈ documents)
    (same : SameBut (IsStaged tree documents) tree after) :
    after.standing document.target = tree.standing document.target :=
  same.standing_eq fun key found staged => beside.apart document inside key staged found

/-- Whether a run raises a trouble or reports a failure. -/
def hasFailed : Except Trouble Written → Bool
  | .error _ => true
  | .ok written => written.hasFailed

/-- How storing two documents ends. -/
inductive Ending (tree : FileTree) (first second : Document) (after : FileTree) :
    Except Trouble Written → Prop
  /-- No document has taken its place. -/
  | untouched (outcome : Except Trouble Written)
    (failed : hasFailed outcome = true)
    (first_same : after.standing first.target = tree.standing first.target)
    (second_same : after.standing second.target = tree.standing second.target) :
    Ending tree first second after outcome
  /-- The first document has taken its place, and a directory is in the place of the second. -/
  | halfway (stored : after.standing first.target = some (.file (Utf8.encode first.text)))
    (stood : tree.standing second.target = some .directory)
    (stands : after.standing second.target = some .directory) :
    Ending tree first second after (.ok ⟨[first.target], true⟩)
  /-- Both documents have taken their places, the second one last. -/
  | complete (stored : after.standing second.target = some (.file (Utf8.encode second.text)))
    (first_stored : (∀ key, tree.locate first.target = .ok key →
        tree.locate second.target ≠ .ok key) →
      after.standing first.target = some (.file (Utf8.encode first.text))) :
    Ending tree first second after (.ok ⟨[first.target, second.target], false⟩)

/-- The two staged documents. -/
theorem Staged.two {first second : Document} (files : Staged tree after [first, second]) :
    ∃ one other, tree.locate first.staged = .ok one ∧ tree.locate second.staged = .ok other ∧
      one ≠ other ∧ after.get? one = some (.file (Utf8.encode first.text)) ∧
        after.get? other = some (.file (Utf8.encode second.text)) := by
  obtain ⟨one, found, -, stands⟩ := files.stored first (by simp)
  obtain ⟨other, also, -, stands_too⟩ := files.stored second (by simp)
  -- The two files are apart where their documents are.
  have apart := List.rel_of_pairwise_cons files.apart (.head _) one found
  exact ⟨one, other, found, also, fun same => apart (same ▸ also), stands, stands_too⟩

/-- Two documents of which the first has taken its place and the second is still staged. -/
structure Advanced (tree moved : FileTree) (first second : Document) : Prop where
  same : SameBut (fun key => IsStaged tree [first, second] key ∨ tree.locate first.target = .ok key)
    tree moved
  placed : ∃ goal, tree.locate first.target = .ok goal ∧
    moved.get? goal = some (.file (Utf8.encode first.text))
  waiting : ∃ other, tree.locate second.staged = .ok other ∧
    moved.get? other = some (.file (Utf8.encode second.text))

namespace Advanced

variable {moved : FileTree} {first second : Document}

/-- The first of two staged documents advances when it moves. -/
theorem of_moves {staged : FileTree} {start goal : List String} {bytes : List UInt8}
    (beside : SideBySide tree [first, second])
    (same : SameBut (IsStaged tree [first, second]) tree staged)
    (files : Staged tree staged [first, second])
    (moves : staged.Moves first.staged first.target start goal bytes) :
    Advanced tree ((staged.erase start).set goal (.file bytes)) first second := by
  obtain ⟨one, other, found, also, differ, stands, stands_too⟩ := files.two
  -- What moves is the file that was staged for the document.
  obtain rfl : one = start := Except.ok.inj ((same.locate_iff.mpr found).symm.trans moves.source)
  obtain rfl : bytes = Utf8.encode first.text := by
    simpa using moves.stands.symm.trans stands
  have target := same.locate_iff.mp moves.target
  refine ⟨(same.mono fun _ => .inl).trans (moves.same.mono ?_), ⟨goal, target, moves.arrived⟩,
    other, also, ?_⟩
  · rintro key (rfl | rfl)
    · exact .inl ⟨first, by simp, found⟩
    · exact .inr target
  · rw [moves.same.elsewhere other, stands_too]
    rintro (rfl | rfl)
    · exact differ rfl
    · exact beside.apart first (by simp) other ⟨second, by simp, also⟩ target

/-- Where the second document cannot move, a directory is in its place. -/
theorem halfway (beside : SideBySide tree [first, second])
    (advanced : Advanced tree moved first second)
    (stuck : ∀ start goal bytes, ¬moved.Moves second.staged second.target start goal bytes)
    (discarded : SameBut (IsStaged moved [first, second]) moved after) :
    Ending tree first second after (.ok ⟨[first.target], true⟩) := by
  obtain ⟨goal, target, arrived⟩ := advanced.placed
  obtain ⟨other, also, waits⟩ := advanced.waiting
  obtain ⟨place, second_target⟩ := beside.follows second (by simp) other also
  have moved_target := advanced.same.locate_iff.mpr target
  have moved_place := advanced.same.locate_iff.mpr second_target
  -- Everything else that a move needs is there, so that only a directory can be in its way.
  have directory : moved.get? place = some .directory :=
    Decidable.byContradiction fun free =>
      stuck other place _ ⟨advanced.same.locate_iff.mpr also, moved_place, waits, free⟩
  refine .halfway ?_ ?_ ?_
  · -- The file in the first place is not among those that are discarded.
    rw [FileTree.standing_of_locate (discarded.locate_iff.mpr moved_target),
      discarded.elsewhere goal, arrived]
    rintro ⟨document, inside, staged⟩
    have clash := advanced.same.locate_iff.mp staged
    exact beside.apart first (by simp) goal ⟨document, inside, clash⟩ target
  · rw [FileTree.standing_of_locate second_target]
    exact (advanced.same.directories place).mp directory
  · rw [FileTree.standing_of_locate (discarded.locate_iff.mpr moved_place)]
    exact (discarded.directories place).mpr directory

/-- Where the second document moves as well, both are in their places. -/
theorem complete {start goal : List String} {bytes : List UInt8}
    (beside : SideBySide tree [first, second]) (advanced : Advanced tree moved first second)
    (moves : moved.Moves second.staged second.target start goal bytes) :
    Ending tree first second ((moved.erase start).set goal (.file bytes))
      (.ok ⟨[first.target, second.target], false⟩) := by
  obtain ⟨place, target, arrived⟩ := advanced.placed
  obtain ⟨other, also, waits⟩ := advanced.waiting
  obtain rfl : other = start :=
    Except.ok.inj ((advanced.same.locate_iff.mpr also).symm.trans moves.source)
  obtain rfl : bytes = Utf8.encode second.text := by
    simpa using moves.stands.symm.trans waits
  -- The second document has moved last, and the first stayed where it was put.
  refine .complete ?_ fun apart => ?_
  · rw [FileTree.standing_of_locate (moves.same.locate_iff.mpr moves.target), moves.arrived]
  · have moved_target := advanced.same.locate_iff.mpr target
    rw [FileTree.standing_of_locate (moves.same.locate_iff.mpr moved_target),
      moves.same.elsewhere place, arrived]
    rintro (rfl | rfl)
    · exact beside.apart first (by simp) place ⟨second, by simp, also⟩ target
    · exact apart place target (advanced.same.locate_iff.mp moves.target)

end Advanced

/-- Two documents are both stored, or neither, or the first one only. -/
theorem store_ending {first second : Document} {outcome : Except Trouble Written}
    (beside : SideBySide tree [first, second])
    (run : (store disk [first, second]).run tree = (outcome, after)) :
    Ending tree first second after outcome := by
  -- The documents are staged, then placed, and what is left of them is discarded.
  obtain ⟨result, staged, staging, next⟩ := run_bind run
  obtain ⟨same, complete⟩ := stage_effect staging
  rw [List.nil_append] at same
  cases result with
  | accident accident =>
    obtain ⟨rfl, rfl⟩ := Prod.mk.inj next
    exact .untouched _ rfl (beside.standing_eq (by simp) same) (beside.standing_eq (by simp) same)
  | failed =>
    obtain ⟨rfl, rfl⟩ := Prod.mk.inj next
    exact .untouched _ rfl (beside.standing_eq (by simp) same) (beside.standing_eq (by simp) same)
  | complete =>
    obtain ⟨⟨created, hasFailed⟩, placed, placing, final⟩ := run_bind next
    -- What is discarded after a failure is staged at most.
    have finish : hasFailed = true → outcome = .ok ⟨created, true⟩ ∧
        SameBut (IsStaged placed [first, second]) placed after := by
      rintro rfl
      obtain ⟨_, _, discarded, last⟩ := run_bind
        (show (discard disk [first, second] >>= fun _ => pure (.ok ⟨created, true⟩)).run
          placed = (outcome, after) from final)
      obtain ⟨rfl, rfl⟩ := Prod.mk.inj last
      exact ⟨rfl, discard_same discarded⟩
    rcases place_cons placing with ⟨ended, rfl, -⟩ | ⟨start, goal, bytes, moves, placing_rest⟩
    · -- Neither document has moved.
      obtain ⟨rfl, rfl⟩ := Written.mk.inj ended
      obtain ⟨rfl, discarded⟩ := finish rfl
      have whole := same.trans (discarded.mono fun key staged => staged.imp fun document inside =>
        ⟨inside.1, same.locate_iff.mp inside.2⟩)
      exact .untouched _ rfl (beside.standing_eq (by simp) whole)
        (beside.standing_eq (by simp) whole)
    · -- The first document has moved, and the second one moves or is stuck.
      have advanced := Advanced.of_moves beside same (complete rfl) moves
      rcases place_cons placing_rest with ⟨ended, rfl, stuck⟩ | ⟨_, _, _, moves_too, rest⟩
      · obtain ⟨rfl, rfl⟩ := Written.mk.inj ended
        obtain ⟨rfl, discarded⟩ := finish rfl
        exact advanced.halfway beside stuck discarded
      · obtain ⟨⟨⟨⟩⟩, rfl⟩ := Prod.mk.inj rest
        obtain ⟨rfl, rfl⟩ := Prod.mk.inj final
        exact advanced.complete beside moves_too

section Pair

variable {tags : Tags} {artifacts : Artifacts} {directory : Path} {config : Config}

/-- The name under which a document is staged. -/
def stagedName (name tag : String) : String :=
  "." ++ name ++ "." ++ tag ++ ".tmp"

/-- Tags under which no document is staged in another directory or in the place of the other. -/
structure Tags.Apart (tags : Tags) (config : Config) : Prop where
  schema_plain : '/' ∉ tags.schema.toList
  manifest_plain : '/' ∉ tags.manifest.toList
  schema_free : stagedName config.schemaFileName.1 tags.schema ≠ config.resolverFileName.1
  manifest_free : stagedName config.resolverFileName.1 tags.manifest ≠ config.schemaFileName.1

/-- A staged name holds the characters of the name itself. -/
theorem subset_stagedName (name tag : String) : name.toList ⊆ (stagedName name tag).toList := by
  intro c inside
  simp [stagedName, inside]

/-- A staged name is longer than the name itself. -/
theorem size_lt_stagedName (name tag : String) :
    name.utf8ByteSize + 2 < (stagedName name tag).utf8ByteSize := by
  have ending : ".tmp".utf8ByteSize = 4 := rfl
  simp only [stagedName, String.utf8ByteSize_append, ending]
  omega

/-- A staged name is not the name of a directory's parent. -/
theorem stagedName_ne_parentMark (name tag : String) : stagedName name tag ≠ Path.parentMark := by
  intro same
  have longer := size_lt_stagedName name tag
  have size : Path.parentMark.utf8ByteSize = 2 := rfl
  rw [same, size] at longer
  omega

/-- A document is staged beside its target. -/
theorem documentFor_eq {name : PlainName} {tag text : String} (plain : '/' ∉ tag.toList) :
    documentFor directory name tag text =
      ⟨directory.below name.1, directory.below (stagedName name.1 tag), text⟩ := by
  obtain ⟨clear, -⟩ := Path.plain_of_isPlainName name.2
  -- The staged name has no slash in it, and is too long to be empty or a dot.
  have beside : directory.entry (stagedName name.1 tag) =
      directory.below (stagedName name.1 tag) := by
    have longer := size_lt_stagedName name.1 tag
    refine Path.entry_of_no_slash ?_ ?_ ?_
    · simp [stagedName, clear, plain]
    · intro empty
      simp [empty] at longer
    · intro dot
      have size : ".".utf8ByteSize = 1 := rfl
      rw [dot, size] at longer
      omega
  simp only [documentFor, stagedPath, Path.entry_plainName, Path.below_parent, Path.below_name]
  exact congrArg (fun staged => (⟨directory.below name.1, staged, text⟩ : Document)) beside

/-- Both documents are staged beside their targets. -/
theorem documents_sideBySide (rooted : tree.IsRooted) (apart : tags.Apart config) :
    SideBySide tree (documents tags artifacts directory config) := by
  have longer (name tag : String) : stagedName name tag ≠ name := by
    intro same
    have size := size_lt_stagedName name tag
    rw [same] at size
    omega
  rw [documents, documentFor_eq apart.schema_plain, documentFor_eq apart.manifest_plain]
  constructor
  · -- Each staged name differs from the names of both targets.
    rintro target belongs key ⟨document, inside, staged⟩
    simp only [List.mem_cons, List.not_mem_nil, or_false] at belongs inside
    rcases belongs with rfl | rfl <;> rcases inside with rfl | rfl
    · exact FileTree.locate_below_apart rooted (longer _ _) staged
    · exact FileTree.locate_below_apart rooted apart.manifest_free staged
    · exact FileTree.locate_below_apart rooted apart.schema_free staged
    · exact FileTree.locate_below_apart rooted (longer _ _) staged
  · -- A target has a shorter name than what is staged for it, of the same characters.
    have follows (name tag : String) (key : List String)
        (staged : tree.locate (directory.below (stagedName name tag)) = .ok key) :
        ∃ place, tree.locate (directory.below name) = .ok place :=
      FileTree.locate_below_shorter rooted (stagedName_ne_parentMark name tag)
        (subset_stagedName name tag) (by have := size_lt_stagedName name tag; omega) staged
    intro document inside key staged
    simp only [List.mem_cons, List.not_mem_nil, or_false] at inside
    rcases inside with rfl | rfl
    · exact follows _ _ key staged
    · exact follows _ _ key staged

/-- A run is refused, ends where the directory cannot be made, or stores the documents in it. -/
theorem write_makes {outcome : Except Trouble Written}
    (run : (write disk tags artifacts directory config).run tree = (outcome, after)) :
    ((∃ trouble, outcome = .error trouble) ∧
        (after = tree ∨
          ∃ accident, (disk.makeDirectories directory).run tree = (some accident, after))) ∨
      ∃ middle, (disk.makeDirectories directory).run tree = (none, middle) ∧
        (store disk (documents tags artifacts directory config)).run middle = (outcome, after) := by
  -- A pair that is not complete is refused before the directory is made.
  unfold write at run
  cases complete : artifacts.isComplete with
  | false =>
    simp only [complete, Bool.not_false, if_true] at run
    obtain ⟨rfl, rfl⟩ := Prod.mk.inj run
    exact .inl ⟨⟨_, rfl⟩, .inl rfl⟩
  | true =>
    simp only [complete, Bool.not_true, Bool.false_eq_true, if_false] at run
    obtain ⟨made, middle, making, next⟩ := run_bind run
    cases made with
    | some accident =>
      obtain ⟨rfl, rfl⟩ := Prod.mk.inj next
      exact .inl ⟨⟨_, rfl⟩, .inr ⟨accident, making⟩⟩
    | none => exact .inr ⟨middle, making, next⟩

/-- Making the directory of a run comes to what making a directory does. -/
theorem makes_directory {made : Option Accident} (rooted : tree.IsRooted)
    (making : (disk.makeDirectories directory).run tree = (made, after)) :
    FileTree.Makes directory tree made after := by
  have makes := FileTree.Makes.all rooted making
  rwa [List.reverse_reverse] at makes

/-- The steps of a run in a tree in which directories lead to everything. -/
theorem write_steps {outcome : Except Trouble Written} (rooted : tree.IsRooted)
    (run : (write disk tags artifacts directory config).run tree = (outcome, after)) :
    ((∃ trouble, outcome = .error trouble) ∧
        (after = tree ∨ ∃ accident, FileTree.Makes directory tree (some accident) after)) ∨
      ∃ middle, FileTree.Makes directory tree none middle ∧
        (store disk (documents tags artifacts directory config)).run middle = (outcome, after) :=
  (write_makes run).imp
    (fun ended => ended.imp_right fun left => left.imp_right fun ⟨accident, making⟩ =>
      ⟨accident, makes_directory rooted making⟩)
    fun ⟨middle, making, storing⟩ => ⟨middle, makes_directory rooted making, storing⟩

/-- Tags for two new files. -/
def someTags : Tags := ⟨"aaaaaaaa", "bbbbbbbb"⟩

/-- Two short documents. -/
def someArtifacts : Artifacts := ⟨"type A", "\x7b\x7d", []⟩

/-- The directory that they are written into. -/
def out : Path := ⟨"", ["out"]⟩

/-- A tree in which a directory stands where the manifest belongs. -/
def blockedTree : FileTree := .ofList [(⟨"", ["out", "resolvers.json"]⟩, .directory)]

theorem someTags_apart : someTags.Apart {} :=
  ⟨by decide +kernel, by decide +kernel, by decide +kernel, by decide +kernel⟩

/--
A run that fails leaves both targets as they were, with one exception.

Where a directory stands at the second target, the first document is stored all the same.
-/
theorem write_failed {outcome : Except Trouble Written} (rooted : tree.IsRooted)
    (apart : tags.Apart config)
    (clear : tree.standing directory = some .directory ∨
      Path.parentMark ∉ directory.components ∧ config.schemaFileName.1 ≠ Path.parentMark ∧
        config.resolverFileName.1 ≠ Path.parentMark)
    (run : (write disk tags artifacts directory config).run tree = (outcome, after))
    (failed : hasFailed outcome = true) :
    let schema := directory.entry config.schemaFileName.1
    let manifest := directory.entry config.resolverFileName.1
    after.standing manifest = tree.standing manifest ∧
      (after.standing schema = tree.standing schema ∨
        outcome = .ok ⟨[schema], true⟩ ∧ tree.standing manifest = some .directory ∧
          after.standing schema = some (.file (Utf8.encode artifacts.sdl))) := by
  simp only [Path.entry_plainName]
  -- Making the directory leaves the targets alone, whether it succeeds or not.
  have spared {made : Option Accident} {middle : FileTree}
      (makes : FileTree.Makes directory tree made middle) :
      middle.standing (directory.below config.schemaFileName.1) =
          tree.standing (directory.below config.schemaFileName.1) ∧
        middle.standing (directory.below config.resolverFileName.1) =
          tree.standing (directory.below config.resolverFileName.1) :=
    ⟨makes.standing_below rooted (clear.imp_right fun down => ⟨down.1, down.2.1⟩),
      makes.standing_below rooted (clear.imp_right fun down => ⟨down.1, down.2.2⟩)⟩
  rcases write_steps rooted run with ⟨-, rfl | ⟨accident, makes⟩⟩ | ⟨middle, makes, storing⟩
  · exact ⟨rfl, .inl rfl⟩
  · exact ⟨(spared makes).2, .inl (spared makes).1⟩
  · -- Of the ways in which storing ends, one has not failed.
    have ending := store_ending (documents_sideBySide makes.rooted apart) storing
    rw [documentFor_eq apart.schema_plain, documentFor_eq apart.manifest_plain] at ending
    rw [← (spared makes).1, ← (spared makes).2]
    cases ending with
    | untouched _ _ first_same second_same => exact ⟨second_same, .inl first_same⟩
    | halfway stored stood stands => exact ⟨stands.trans stood.symm, .inr ⟨rfl, stood, stored⟩⟩
    | complete => cases failed

/-- A failure after the first document is the exception. -/
theorem write_failed_blocked :
    ∃ outcome after, (write disk someTags someArtifacts out {}).run blockedTree = (outcome, after) ∧
      after.standing (out.entry "resolvers.json") =
          blockedTree.standing (out.entry "resolvers.json") ∧
        (after.standing (out.entry "schema.graphql") =
            blockedTree.standing (out.entry "schema.graphql") ∨
          outcome = .ok ⟨[out.entry "schema.graphql"], true⟩ ∧
            blockedTree.standing (out.entry "resolvers.json") = some .directory ∧
            after.standing (out.entry "schema.graphql") =
              some (.file (Utf8.encode someArtifacts.sdl))) := by
  have failed :
      hasFailed ((write disk someTags someArtifacts out {}).run blockedTree).1 = true := by
    decide +kernel
  cases run : (write disk someTags someArtifacts out {}).run blockedTree with
  | mk outcome after =>
    rw [run] at failed
    have kept :=
      write_failed (by decide +kernel) someTags_apart (.inl (by decide +kernel)) run failed
    exact ⟨outcome, after, rfl, kept⟩

/-- A run that fails can leave a schema where none was. -/
theorem write_failed_halfway :
    ∃ outcome after, (write disk someTags someArtifacts out {}).run blockedTree = (outcome, after) ∧
      blockedTree.IsRooted ∧ hasFailed outcome = true ∧
        after.standing (out.entry "schema.graphql") ≠
          blockedTree.standing (out.entry "schema.graphql") :=
  ⟨_, _, rfl, by decide +kernel, by decide +kernel, by decide +kernel⟩

/--
A run that does not fail stores both documents.

With one name for both, what stands there is the manifest, which is stored last.
-/
theorem write_succeeded {outcome : Except Trouble Written} (rooted : tree.IsRooted)
    (apart : tags.Apart config)
    (run : (write disk tags artifacts directory config).run tree = (outcome, after))
    (succeeded : hasFailed outcome = false) :
    after.standing (directory.entry config.resolverFileName.1) =
        some (.file (Utf8.encode artifacts.manifest)) ∧
      after.standing (directory.entry config.schemaFileName.1) =
        some (.file (Utf8.encode (if config.schemaFileName.1 = config.resolverFileName.1 then
          artifacts.manifest else artifacts.sdl))) := by
  simp only [Path.entry_plainName]
  rcases write_steps rooted run with ⟨⟨trouble, rfl⟩, -⟩ | ⟨middle, makes, storing⟩
  · cases succeeded
  · -- Of the ways in which storing ends, only one has not failed.
    have ending := store_ending (documents_sideBySide makes.rooted apart) storing
    rw [documentFor_eq apart.schema_plain, documentFor_eq apart.manifest_plain] at ending
    cases ending with
    | untouched _ failed => cases succeeded.symm.trans failed
    | halfway => cases succeeded
    | complete stored first_stored =>
      refine ⟨stored, ?_⟩
      split
      · rename_i same
        rw [same]
        exact stored
      · -- With names of their own, the targets are different places.
        rename_i differ
        exact first_stored fun key found => FileTree.locate_below_apart makes.rooted differ found

/-- Both documents are stored where nothing stood. -/
theorem write_succeeded_fresh :
    ∃ outcome after, (write disk someTags someArtifacts out {}).run FileTree.empty =
        (outcome, after) ∧
      after.standing (out.entry "resolvers.json") =
          some (.file (Utf8.encode someArtifacts.manifest)) ∧
        after.standing (out.entry "schema.graphql") =
          some (.file (Utf8.encode someArtifacts.sdl)) := by
  have succeeded :
      hasFailed ((write disk someTags someArtifacts out {}).run FileTree.empty).1 = false := by
    decide +kernel
  cases run : (write disk someTags someArtifacts out {}).run FileTree.empty with
  | mk outcome after =>
    rw [run] at succeeded
    have stored := write_succeeded (by decide +kernel) someTags_apart run succeeded
    exact ⟨outcome, after, rfl, stored⟩

/-- Settings with one name for both documents. -/
def oneName : Config :=
  { schemaFileName := ⟨"api", by decide +kernel⟩, resolverFileName := ⟨"api", by decide +kernel⟩ }

/-- A run that does not fail can leave no schema behind. -/
theorem write_succeeded_overwritten :
    ∃ outcome after, (write disk someTags someArtifacts out oneName).run FileTree.empty =
        (outcome, after) ∧
      FileTree.empty.IsRooted ∧ hasFailed outcome = false ∧
        after.standing (out.entry oneName.schemaFileName.1) ≠
          some (.file (Utf8.encode someArtifacts.sdl)) :=
  ⟨_, _, rfl, by decide +kernel, by decide +kernel, by decide +kernel⟩

end Pair

end AppSync.Writing
