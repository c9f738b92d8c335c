import AppSync.Proofs.FileTree.Changes
import Mathlib.Data.List.Induction

/-! Making directories: what a tree gains, and when the directory stands in the end. -/

namespace AppSync.FileTree

variable {tree before middle after : FileTree} {key : List String} {path : Path}

/-- A tree that has gained directories under some names, and is otherwise as it was. -/
def Grown (names : List String → Prop) (before after : FileTree) : Prop :=
  ∀ key, after.get? key = before.get? key ∨
    before.get? key = none ∧ after.get? key = some .directory ∧ names key

namespace Grown

variable {names others : List String → Prop}

/-- A tree has gained nothing since itself. -/
theorem refl (names : List String → Prop) (tree : FileTree) : Grown names tree tree :=
  fun _ => .inl rfl

/-- What two changes gain is gained by both. -/
theorem trans (first : Grown names before middle) (second : Grown names middle after) :
    Grown names before after := by
  intro key
  rcases second key with same | ⟨free, stands, inside⟩
  · rcases first key with kept | ⟨free, stands, inside⟩
    · exact .inl (same.trans kept)
    · exact .inr ⟨free, same.trans stands, inside⟩
  · -- What the second change gains did not stand after the first, so neither before it.
    rcases first key with kept | ⟨-, stood, -⟩
    · exact .inr ⟨kept.symm.trans free, stands, inside⟩
    · exact nomatch free.symm.trans stood

/-- More names may be allowed for. -/
theorem mono (wider : ∀ key, names key → others key) (grown : Grown names before after) :
    Grown others before after :=
  fun key => (grown key).imp_right fun gained => ⟨gained.1, gained.2.1, wider key gained.2.2⟩

/-- Whatever stood stands. -/
theorem kept {stored : Stored} (grown : Grown names before after)
    (stood : before.get? key = some stored) : after.get? key = some stored := by
  rcases grown key with same | ⟨free, -⟩
  · exact same.trans stood
  · exact nomatch free.symm.trans stood

/-- A directory is gained under names that were free. -/
theorem set (free : tree.get? key = none) : Grown (· = key) tree (tree.set key .directory) := by
  intro other
  rw [get?_set]
  split
  · rename_i same
    exact .inr ⟨same.1 ▸ free, rfl, same.1⟩
  · exact .inl rfl

end Grown

/-- What a path leads to is an entry of a directory. -/
theorem IsRooted.parent_of_locate (rooted : tree.IsRooted) (found : tree.locate path = .ok key) :
    tree.get? key.dropLast = some .directory := by
  obtain ⟨-, walked⟩ := locate_eq_ok.mp found
  have start := rooted.origin_stands path
  rcases List.eq_nil_or_concat path.components with none | ⟨names, name, split⟩
  · -- The path is where it begins.
    rw [none] at walked
    obtain rfl : origin path = key := by simpa [walk] using walked
    exact rooted.parents _ (by simp [start])
  · -- The last name leads up from a directory, or down from one.
    rw [split, List.concat_eq_append] at walked
    obtain ⟨parent, -, stands, -, rfl⟩ := (walk_concat rooted start).mp walked
    unfold entered
    split
    · have up := rooted.parents parent (by simp [stands])
      exact rooted.parents _ (by simp [up])
    · simpa using stands

/-- A directory that is made in a directory keeps a tree rooted. -/
theorem IsRooted.set (rooted : tree.IsRooted) (free : tree.get? key = none)
    (parent : tree.get? key.dropLast = some .directory) : (tree.set key .directory).IsRooted := by
  have grown := Grown.set free
  refine ⟨grown.kept rooted.home, fun other stands => grown.kept ?_⟩
  rcases grown other with same | ⟨-, -, rfl⟩
  · exact rooted.parents other (same ▸ stands)
  · exact parent

/-- A path that leads nowhere makes no directory. -/
theorem IsAstray.accident {reply : Reply} (astray : IsAstray reply) :
    Disk.directoryAccident path reply ≠ none := by
  rcases astray with rfl | rfl | rfl | rfl <;> simp [Disk.directoryAccident]

/-- What it comes to that a directory is made. -/
structure Makes (path : Path) (before : FileTree) (outcome : Option Accident) (after : FileTree) :
    Prop where
  rooted : after.IsRooted
  /-- Only directories that lead to it are gained, unless the path steps up. -/
  grown : Grown (fun key => Path.parentMark ∉ path.components →
    key <+: origin path ++ path.components) before after
  stands : outcome = none ↔ after.standing path = some .directory
  /-- Nothing changes where the directory stands already. -/
  idle : before.standing path = some .directory → after = before

/-- A directory is made at once where its parent stands. -/
theorem Makes.child {reply : Reply} (rooted : tree.IsRooted)
    (performed : tree.perform (.makeDirectory path) = (reply, after)) :
    Makes path tree (Disk.directoryAccident path reply) after := by
  rcases perform_makeDirectory performed with
    ⟨lost, astray, rfl⟩ | ⟨key, found, ⟨free, rfl, rfl⟩ | ⟨stands, rfl, rfl⟩ | ⟨other, rfl, rfl⟩⟩
  · -- The path leads nowhere.
    refine ⟨rooted, .refl _ _, ?_, fun _ => rfl⟩
    simp [astray.accident, standing_of_lost lost]
  · -- The directory is new.
    have grown := Grown.set free
    have still := locate_mono (fun key => grown.kept) found
    have named : key ≠ [] := ne_nil_of_get? free nofun
    refine ⟨rooted.set free (rooted.parent_of_locate found), grown.mono ?_, ?_, ?_⟩
    · rintro _ rfl straight
      exact walk_straight straight (locate_eq_ok.mp found).2 ▸ List.prefix_rfl
    · simp [Disk.directoryAccident, standing_of_locate still, get?_set, named]
    · simp [standing_of_locate found, free]
  · -- The directory stands already.
    refine ⟨rooted, .refl _ _, ?_, fun _ => rfl⟩
    simp [Disk.directoryAccident, standing_of_locate found, stands]
  · -- A file stands there.
    refine ⟨rooted, .refl _ _, ?_, fun _ => rfl⟩
    simp [Disk.directoryAccident, standing_of_locate found, other]

/-- A directory stands where one of its entries can be found. -/
theorem standing_of_locate_below {directory : Path} {name : String} (rooted : tree.IsRooted)
    (found : tree.locate (directory.below name) = .ok key) :
    tree.standing directory = some .directory := by
  obtain ⟨-, -, parent, located, stands, -⟩ := (locate_below rooted).mp found
  exact (standing_of_locate located).trans stands

/-- What stands at a path has been found. -/
theorem locate_of_standing {stored : Stored} (stands : tree.standing path = some stored) :
    ∃ key, tree.locate path = .ok key ∧ tree.get? key = some stored := by
  rcases located_or_lost tree path with ⟨key, found⟩ | lost
  · exact ⟨key, found, (standing_of_locate found).symm.trans stands⟩
  · exact nomatch (standing_of_lost lost).symm.trans stands

/-- What leads to a directory leads to its entries as well. -/
theorem Makes.grown_below {root name : String} {parents : List String} {outcome : Option Accident}
    (above : Makes ⟨root, parents⟩ before outcome after) :
    Grown (fun key => Path.parentMark ∉ parents ++ [name] →
      key <+: origin ⟨root, parents ++ [name]⟩ ++ (parents ++ [name])) before after := by
  refine above.grown.mono fun key leads straight => ?_
  have shorter := leads fun up => straight (List.mem_append_left _ up)
  rw [← List.append_assoc]
  exact shorter.trans (List.prefix_append _ _)

/-- A directory is not made where its parent could not be. -/
theorem Makes.of_accident {root name : String} {parents : List String} {accident : Accident}
    (above : Makes ⟨root, parents⟩ before (some accident) after)
    (missing : before.standing ⟨root, parents ++ [name]⟩ ≠ some .directory) :
    Makes ⟨root, parents ++ [name]⟩ before (some accident) after := by
  refine ⟨above.rooted, above.grown_below, ⟨nofun, fun stands => ?_⟩,
    fun stands => (missing stands).elim⟩
  -- The directory cannot stand where its parent does not.
  obtain ⟨key, found, -⟩ := locate_of_standing stands
  have parent : after.standing ⟨root, parents⟩ = some .directory :=
    standing_of_locate_below above.rooted found
  exact nomatch above.stands.mpr parent

/-- A directory is made once its parent has been. -/
theorem Makes.of_parent {root name : String} {parents : List String} {outcome : Option Accident}
    (above : Makes ⟨root, parents⟩ before none middle)
    (last : Makes ⟨root, parents ++ [name]⟩ middle outcome after)
    (missing : before.standing ⟨root, parents ++ [name]⟩ ≠ some .directory) :
    Makes ⟨root, parents ++ [name]⟩ before outcome after :=
  ⟨last.rooted, above.grown_below.trans last.grown, last.stands,
    fun stands => (missing stands).elim⟩

/-- A directory is made with all that lead to it. -/
theorem Makes.all {root : String} {names : List String} {outcome : Option Accident}
    (rooted : tree.IsRooted) (run : (disk.makeAll root names).run tree = (outcome, after)) :
    Makes ⟨root, names.reverse⟩ tree outcome after := by
  -- The last name comes first, and those in front of it are made where it leads nowhere.
  induction names generalizing tree outcome after with
  | nil =>
    obtain ⟨rfl, rfl⟩ := Prod.mk.inj run
    exact .child rooted rfl
  | cons name parents ih =>
    rw [List.reverse_cons]
    obtain ⟨reply, middle, performed, next⟩ := run_bind run
    rw [List.reverse_cons, run_perform] at performed
    by_cases missing : reply = .missing
    · subst missing
      obtain ⟨upward, climbed, ascent, final⟩ := run_bind next
      rcases perform_makeDirectory performed with ⟨lost, -, rfl⟩ | ⟨key, -, other⟩
      · have above := ih rooted ascent
        have absent : middle.standing ⟨root, parents.reverse ++ [name]⟩ ≠ some .directory := by
          rw [standing_of_lost lost]
          exact nofun
        cases upward with
        | some accident =>
          obtain ⟨rfl, rfl⟩ := Prod.mk.inj final
          exact above.of_accident absent
        | none =>
          rw [List.reverse_cons] at final
          obtain ⟨rfl, rfl⟩ := Prod.mk.inj final
          exact above.of_parent (.child above.rooted rfl) absent
      · simp at other
    · -- Any other reply is the outcome.
      have ended : (Disk.directoryAccident ⟨root, parents.reverse ++ [name]⟩ reply, middle) =
          (outcome, after) := by
        rw [← List.reverse_cons]
        cases reply <;> first | exact next | exact (missing rfl).elim
      obtain ⟨rfl, rfl⟩ := Prod.mk.inj ended
      exact .child rooted performed

/-- Names that lead down to where a directory stood led there before. -/
theorem Grown.walk_back {names : List String → Prop} {current walked : List String}
    (grown : Grown names before after) (rooted : before.IsRooted) (rooted_after : after.IsRooted)
    (start : before.get? current = some .directory) (straight : Path.parentMark ∉ walked)
    (found : after.walk current walked = .ok key) (stood : before.get? key ≠ none) :
    before.walk current walked = .ok key := by
  -- From the last name back: its parent stood as well, since something stood in it.
  induction walked using List.reverseRecOn generalizing key with
  | nil => exact found
  | append_singleton names name ih =>
    obtain ⟨above, down⟩ : Path.parentMark ∉ names ∧ Path.parentMark ≠ name := by
      simpa using straight
    obtain ⟨parent, led, -, fits, rfl⟩ := (walk_concat rooted_after (grown.kept start)).mp found
    have entry : entered parent name = parent ++ [name] := if_neg down.symm
    have parent_stood : before.get? parent = some .directory := by
      simpa [entry] using rooted.parents _ stood
    exact (walk_concat rooted start).mpr
      ⟨parent, ih above led (by simp [parent_stood]), parent_stood, fits, rfl⟩

/-- What stands in a directory stays when the directory is made, unless the path steps up. -/
theorem Makes.standing_below {directory : Path} {name : String} {outcome : Option Accident}
    (makes : Makes directory before outcome after) (rooted : before.IsRooted)
    (clear : before.standing directory = some .directory ∨
      Path.parentMark ∉ directory.components ∧ name ≠ Path.parentMark) :
    after.standing (directory.below name) = before.standing (directory.below name) := by
  by_cases stood : before.standing directory = some .directory
  · rw [makes.idle stood]
  · -- Nothing can stand in a directory that does not, neither before nor after it is made.
    obtain ⟨straight, down⟩ := clear.resolve_left stood
    have before_lost : ∀ key, before.locate (directory.below name) ≠ .ok key :=
      fun key found => stood (standing_of_locate_below rooted found)
    rw [standing_of_lost before_lost]
    cases stands : after.standing (directory.below name) with
    | none => rfl
    | some stored =>
      exfalso
      obtain ⟨key, found, content⟩ := locate_of_standing stands
      obtain ⟨-, -, parent, located, -, entry⟩ := (locate_below makes.rooted).mp found
      obtain ⟨writable, walked⟩ := locate_eq_ok.mp located
      obtain rfl : key = parent ++ [name] := entry.trans (if_neg down)
      have parent_eq := walk_straight straight walked
      rcases makes.grown (parent ++ [name]) with same | ⟨-, -, leads⟩
      · -- What stood there stood in the directory.
        have filled : before.get? (parent ++ [name]) ≠ none := by simp [← same, content]
        have parent_stood : before.get? parent = some .directory := by
          simpa using rooted.parents _ filled
        have back := makes.grown.walk_back rooted makes.rooted (rooted.origin_stands directory)
          straight walked (by simp [parent_stood])
        have led := locate_eq_ok.mpr ⟨writable, back⟩
        exact stood ((standing_of_locate led).trans parent_stood)
      · -- An entry of the directory is none of those that lead to it.
        have shorter := (leads straight).length_le
        rw [← parent_eq, List.length_append, List.length_singleton] at shorter
        omega

/-- The places to which a path leads, as a whole or without some of its last components. -/
def OnTheWay (tree : FileTree) (path : Path) (key : List String) : Prop :=
  ∃ above : Path, above.root = path.root ∧ above.components <+: path.components ∧
    tree.locate above = .ok key

namespace Grown

/-- What is gained on the way in one change is on the way after the next one as well. -/
theorem trans_onTheWay (first : Grown (OnTheWay middle path) before middle)
    (second : Grown (OnTheWay after path) middle after) :
    Grown (OnTheWay after path) before after := by
  refine (first.mono fun key way => ?_).trans second
  obtain ⟨above, same, shorter, found⟩ := way
  exact ⟨above, same, shorter, locate_mono (fun key => second.kept) found⟩

/-- A directory is gained where its path leads. -/
theorem child {reply : Reply} (performed : tree.perform (.makeDirectory path) = (reply, after)) :
    Grown (OnTheWay after path) tree after := by
  rcases perform_makeDirectory performed with
    ⟨-, -, rfl⟩ | ⟨key, found, ⟨free, -, rfl⟩ | ⟨-, -, rfl⟩ | ⟨-, -, rfl⟩⟩
  · exact .refl _ _
  · have grown := Grown.set free
    refine grown.mono ?_
    rintro _ rfl
    exact ⟨path, rfl, List.prefix_rfl, locate_mono (fun key => grown.kept) found⟩
  · exact .refl _ _
  · exact .refl _ _

/-- Only directories on the way to one are gained when it is made. -/
theorem all {root : String} {names : List String} {outcome : Option Accident}
    (run : (disk.makeAll root names).run tree = (outcome, after)) :
    Grown (OnTheWay after ⟨root, names.reverse⟩) tree after := by
  -- The directory is tried first, then its parent, and the directory once more.
  induction names generalizing tree outcome after with
  | nil =>
    obtain ⟨rfl, rfl⟩ := Prod.mk.inj run
    exact .child rfl
  | cons name parents ih =>
    obtain ⟨reply, middle, performed, next⟩ := run_bind run
    have tried := Grown.child performed
    by_cases missing : reply = .missing
    · subst missing
      obtain ⟨upward, climbed, ascent, final⟩ := run_bind next
      have parent : Grown (OnTheWay climbed ⟨root, (name :: parents).reverse⟩) middle climbed := by
        refine (ih ascent).mono ?_
        rintro key ⟨above, same, shorter, found⟩
        rw [List.reverse_cons]
        exact ⟨above, same, shorter.trans (List.prefix_append _ _), found⟩
      cases upward with
      | some accident =>
        obtain ⟨rfl, rfl⟩ := Prod.mk.inj final
        exact tried.trans_onTheWay parent
      | none =>
        obtain ⟨rfl, rfl⟩ := Prod.mk.inj final
        exact (tried.trans_onTheWay parent).trans_onTheWay (.child rfl)
    · have ended : (Disk.directoryAccident ⟨root, (name :: parents).reverse⟩ reply, middle) =
          (outcome, after) := by
        cases reply <;> first | exact next | exact (missing rfl).elim
      obtain ⟨rfl, rfl⟩ := Prod.mk.inj ended
      exact tried

end Grown

end AppSync.FileTree
