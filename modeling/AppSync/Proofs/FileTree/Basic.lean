import AppSync.FileTree
import AppSync.Proofs.Path

/-! What stands under names and at paths, and trees that differ under some names only. -/

namespace AppSync.FileTree

variable {tree before after : FileTree} {key : List String} {path : Path}

/-- Nothing stands under names that are erased; elsewhere a tree is as it was. -/
theorem get?_erase (tree : FileTree) (key other : List String) :
    (tree.erase key).get? other = if other = key ∧ other ≠ [] then none else tree.get? other := by
  unfold get? erase
  by_cases root : other = []
  · simp [root]
  · -- The entries that are looked for are among the ones kept, unless they are those erased.
    have kept : (fun entry : List String × Stored =>
        decide (decide (entry.1 ≠ key) = true ∧ decide (entry.1 = other) = true)) =
          fun entry => decide (other ≠ key) && decide (entry.1 = other) := by
      funext entry
      by_cases found : entry.1 = other <;> simp [found]
    simp only [root, if_false, List.find?_filter, kept]
    by_cases same : other = key
    · subst same
      simp [root]
    · simp [same]

/-- What is set under names stands there; elsewhere a tree is as it was. -/
theorem get?_set (tree : FileTree) (key other : List String) (stored : Stored) :
    (tree.set key stored).get? other =
      if other = key ∧ other ≠ [] then some stored else tree.get? other := by
  have erased := get?_erase tree key other
  unfold get? at erased ⊢
  by_cases root : other = []
  · simp [root]
  · -- The new entry comes last, and what stood under its names is erased.
    by_cases same : other = key
    · subst same
      simp only [root, if_false, ne_eq, not_false_eq_true, and_self, if_true] at erased ⊢
      simp [set, List.find?_append, Option.map_eq_none_iff.mp erased]
    · have differ : ¬key = other := fun equal => same equal.symm
      simpa [set, List.find?_append, root, same, differ] using erased

/-- Names under which nothing stands are not those of the root. -/
theorem ne_nil_of_get? {stored : Option Stored} (stands : tree.get? key = stored)
    (other : stored ≠ some .directory) : key ≠ [] := by
  rintro rfl
  exact other (stands.symm.trans (if_pos rfl))

/-- Trees that differ in files at most, and only under some names. -/
structure SameBut (names : List String → Prop) (before after : FileTree) : Prop where
  elsewhere : ∀ key, ¬names key → after.get? key = before.get? key
  directories : ∀ key, after.get? key = some .directory ↔ before.get? key = some .directory

namespace SameBut

variable {names others : List String → Prop} {middle : FileTree}

/-- A tree does not differ from itself. -/
theorem refl (names : List String → Prop) (tree : FileTree) : SameBut names tree tree :=
  ⟨fun _ _ => rfl, fun _ => .rfl⟩

/-- Two changes concern what either of them does. -/
theorem trans (first : SameBut names before middle) (second : SameBut names middle after) :
    SameBut names before after :=
  ⟨fun key outside => (second.elsewhere key outside).trans (first.elsewhere key outside),
    fun key => (second.directories key).trans (first.directories key)⟩

/-- A change may be said to concern more names than it does. -/
theorem mono (wider : ∀ key, names key → others key) (same : SameBut names before after) :
    SameBut others before after :=
  ⟨fun key outside => same.elsewhere key fun inside => outside (wider key inside),
    same.directories⟩

/-- A file that is set where no directory stands concerns its own names. -/
theorem set (free : tree.get? key ≠ some .directory) (bytes : List UInt8) :
    SameBut (· = key) tree (tree.set key (.file bytes)) := by
  refine ⟨fun other outside => ?_, fun other => ?_⟩
  · rw [get?_set, if_neg fun same => outside same.1]
  · -- The names of the file hold no directory, before or after.
    rw [get?_set]
    split
    · rename_i same
      simp [same.1, free]
    · exact .rfl

/-- A file that is erased concerns its own names. -/
theorem erase {bytes : List UInt8} (stands : tree.get? key = some (.file bytes)) :
    SameBut (· = key) tree (tree.erase key) := by
  refine ⟨fun other outside => ?_, fun other => ?_⟩
  · rw [get?_erase, if_neg fun same => outside same.1]
  · -- A file is no directory, so that none is lost with it.
    rw [get?_erase]
    split
    · rename_i same
      simp [same.1, stands]
    · exact .rfl

end SameBut

/-- Names that can be followed stay so where no directory is lost. -/
theorem walk_mono
    (grown : ∀ key, before.get? key = some .directory → after.get? key = some .directory)
    {current names : List String} (found : before.walk current names = .ok key) :
    after.walk current names = .ok key := by
  -- Each name is followed through a directory, which is still there.
  induction names generalizing current with
  | nil => exact found
  | cons name rest ih =>
    unfold walk at found ⊢
    split at found
    · rename_i parent
      rw [if_pos parent]
      exact ih found
    · rename_i child
      rw [if_neg child]
      split at found
      · cases found
      · rename_i short
        rw [if_neg short]
        -- The last name need not stand; any other one has to be a directory.
        split at found
        · rename_i last
          rw [if_pos last]
          exact found
        · rename_i further
          rw [if_neg further]
          cases stands : before.get? (current ++ [name]) with
          | none => simp [stands] at found
          | some stored =>
            cases stored with
            | file bytes => simp [stands] at found
            | directory =>
              simp only [stands] at found
              simp only [grown _ stands]
              exact ih found

/-- A path that leads somewhere does so where no directory is lost. -/
theorem locate_mono
    (grown : ∀ key, before.get? key = some .directory → after.get? key = some .directory)
    (found : before.locate path = .ok key) : after.locate path = .ok key := by
  -- What is asked of the path itself does not depend on the tree.
  unfold locate at found ⊢
  split at found
  · cases found
  · rename_i clear
    rw [if_neg clear]
    split at found
    · cases found
    · rename_i short
      rw [if_neg short]
      exact walk_mono grown found

/-- Where only files differ, a path leads to the same names. -/
theorem SameBut.locate_iff {names : List String → Prop} (same : SameBut names before after) :
    after.locate path = .ok key ↔ before.locate path = .ok key :=
  ⟨locate_mono fun key => (same.directories key).mp,
    locate_mono fun key => (same.directories key).mpr⟩

/-- What stands at a path; nothing does where a path cannot be followed. -/
def standing (tree : FileTree) (path : Path) : Option Stored :=
  (tree.look path).toOption.join

/-- What stands at a path is what its names have. -/
theorem standing_of_locate (found : tree.locate path = .ok key) :
    tree.standing path = tree.get? key := by
  simp [standing, look, found, Except.toOption]

/-- Nothing stands at a path that leads nowhere. -/
theorem standing_of_lost (lost : ∀ key, tree.locate path ≠ .ok key) :
    tree.standing path = none := by
  -- A look that fails finds nothing, and so does one at a name that is too long.
  unfold standing look
  split
  · rename_i key found
    exact (lost key found).elim
  · rfl
  · rfl

/-- A path leads somewhere or nowhere. -/
theorem located_or_lost (tree : FileTree) (path : Path) :
    (∃ key, tree.locate path = .ok key) ∨ ∀ key, tree.locate path ≠ .ok key := by
  cases tree.locate path with
  | ok key => exact .inl ⟨key, rfl⟩
  | error reply => exact .inr fun key found => nomatch found

/-- What stands at a path stays where files under its names are not concerned. -/
theorem SameBut.standing_eq {names : List String → Prop} (same : SameBut names before after)
    (apart : ∀ key, before.locate path = .ok key → ¬names key) :
    after.standing path = before.standing path := by
  -- The path leads to the same names in both trees, or to none in either.
  rcases located_or_lost before path with ⟨key, found⟩ | lost
  · rw [standing_of_locate found, standing_of_locate (same.locate_iff.mpr found),
      same.elsewhere key (apart key found)]
  · rw [standing_of_lost lost,
      standing_of_lost fun key found => lost key (same.locate_iff.mp found)]

/-- A tree in which directories lead to everything, also to where paths begin. -/
structure IsRooted (tree : FileTree) : Prop where
  home : tree.get? FileTree.home = some .directory
  parents : ∀ key, tree.get? key ≠ none → tree.get? key.dropLast = some .directory

/-- A tree is rooted when a directory is there for each of its entries. -/
theorem isRooted_iff : tree.IsRooted ↔ tree.get? home = some .directory ∧
    ∀ entry ∈ tree.entries, tree.get? entry.1.dropLast = some .directory := by
  constructor
  · -- Something stands under the names of an entry: that entry, or one before it.
    intro rooted
    refine ⟨rooted.home, fun entry inside => rooted.parents entry.1 fun absent => ?_⟩
    unfold get? at absent
    split at absent
    · cases absent
    · simpa using List.find?_eq_none.mp (Option.map_eq_none_iff.mp absent) entry inside
  · -- What stands is the root, whose parent is itself, or it has an entry.
    rintro ⟨home, entries⟩
    refine ⟨home, fun key stands => ?_⟩
    unfold get? at stands
    split at stands
    · rename_i root
      rw [root]
      rfl
    · cases found : tree.entries.find? fun entry => entry.1 = key with
      | none => simp [found] at stands
      | some entry =>
        have same : entry.1 = key := by simpa using List.find?_some found
        exact same ▸ entries entry (List.mem_of_find?_eq_some found)

instance (tree : FileTree) : Decidable tree.IsRooted :=
  decidable_of_iff _ isRooted_iff.symm

/-- The names at which a path begins. -/
def origin (path : Path) : List String :=
  if path.root = "" then home else []

/-- A path that is neither too long nor holds the character of code zero. -/
def Writable (path : Path) : Prop :=
  (∀ name ∈ path.components, '\x00' ∉ name.toList) ∧ path.toString.utf8ByteSize ≤ longestPath

/-- A name that can be followed. -/
def Fits (name : String) : Prop :=
  name = Path.parentMark ∨ name.utf8ByteSize ≤ longestName

/-- The names that one more name leads to. -/
def entered (parent : List String) (name : String) : List String :=
  if name = Path.parentMark then parent.dropLast else parent ++ [name]

/-- Different names lead to different places. -/
theorem entered_inj {parent : List String} {name other : String}
    (same : entered parent name = entered parent other) : name = other := by
  unfold entered at same
  -- A step up is shorter than where it starts, and a step down is longer.
  by_cases up : name = Path.parentMark <;> by_cases also : other = Path.parentMark
  · rw [up, also]
  · have lengths := congrArg List.length same
    simp [up, also] at lengths
  · have lengths := congrArg List.length same
    simp [up, also] at lengths
    omega
  · rw [if_neg up, if_neg also] at same
    exact List.singleton_inj.mp (List.append_cancel_left same)

/-- A path that leads somewhere is followed name by name. -/
theorem locate_eq_ok :
    tree.locate path = .ok key ↔
      Writable path ∧ tree.walk (origin path) path.components = .ok key := by
  -- The two tests on the path are those of a writable one.
  unfold locate Writable origin
  split
  · rename_i nul
    simp only [List.any_eq_true, List.contains_iff_mem] at nul
    obtain ⟨name, inside, held⟩ := nul
    exact ⟨nofun, fun both => (both.1.1 name inside held).elim⟩
  · rename_i clear
    simp only [List.any_eq_true, List.contains_iff_mem, not_exists, not_and] at clear
    split
    · rename_i long
      exact ⟨nofun, fun both => (Nat.not_lt.mpr both.1.2 long).elim⟩
    · rename_i short
      exact ⟨fun found => ⟨⟨clear, Nat.not_lt.mp short⟩, found⟩, fun both => both.2⟩

/-- A name is followed by itself, and through a directory by others. -/
theorem walk_cons {current names : List String} {name : String}
    (rooted : tree.IsRooted) (start : tree.get? current = some .directory) :
    tree.walk current (name :: names) = .ok key ↔
      Fits name ∧ (names = [] ∨ tree.get? (entered current name) = some .directory) ∧
        tree.walk (entered current name) names = .ok key := by
  -- A step up leads to a directory, since something stands where it starts.
  have up : tree.get? current.dropLast = some .directory := rooted.parents current (by simp [start])
  unfold Fits entered
  rw [walk]
  split
  · rename_i parent
    simp [parent, up]
  · rename_i child
    simp only [child, false_or]
    split
    · rename_i long
      exact ⟨nofun, fun both => (Nat.not_lt.mpr both.1 long).elim⟩
    · -- A step down needs no directory where it is the last.
      rename_i short
      split
      · rename_i last
        subst last
        simp [walk, Nat.not_lt.mp short]
      · rename_i further
        split <;> rename_i stands <;> simp [stands, further, Nat.not_lt.mp short]

/-- Names are followed through a directory to one name more. -/
theorem walk_concat {current names : List String} {name : String}
    (rooted : tree.IsRooted) (start : tree.get? current = some .directory) :
    tree.walk current (names ++ [name]) = .ok key ↔
      ∃ parent, tree.walk current names = .ok parent ∧ tree.get? parent = some .directory ∧
        Fits name ∧ key = entered parent name := by
  -- The first name leads to a directory, since another one follows.
  induction names generalizing current with
  | nil =>
    rw [List.nil_append, walk_cons rooted start]
    simp [walk, start, eq_comm]
  | cons first rest ih =>
    rw [List.cons_append, walk_cons rooted start]
    by_cases through : tree.get? (entered current first) = some .directory
    · rw [ih through]
      simp [walk_cons rooted start, through, and_assoc]
    · -- Without that directory there is no path, neither as a whole nor up to the last name.
      simp only [walk_cons rooted start, through, List.append_eq_nil_iff, List.cons_ne_nil,
        and_false, or_false, false_and, false_iff]
      rintro ⟨parent, ⟨-, rfl, found⟩, stands, -⟩
      cases found
      exact through stands

/-- Paths begin in directories. -/
theorem IsRooted.origin_stands (rooted : tree.IsRooted) (path : Path) :
    tree.get? (origin path) = some .directory := by
  unfold origin
  split
  · exact rooted.home
  · rfl

/-- A directory can be named where one of its entries can. -/
theorem Writable.of_below {directory : Path} {name : String}
    (writable : Writable (directory.below name)) : Writable directory :=
  ⟨fun other inside => writable.1 other (List.mem_append_left _ inside),
    Nat.le_trans (Path.utf8ByteSize_toString_le_below directory name) writable.2⟩

/-- An entry can be named where one can whose name holds all of its characters. -/
theorem Writable.shorter {directory : Path} {short long : String}
    (writable : Writable (directory.below long)) (within : short.toList ⊆ long.toList)
    (shorter : short.utf8ByteSize ≤ long.utf8ByteSize) : Writable (directory.below short) := by
  -- The last component is the only one that differs, and it holds no other characters.
  refine ⟨fun name inside nul => ?_,
    Nat.le_trans (Path.utf8ByteSize_toString_below_mono shorter) writable.2⟩
  rcases List.mem_append.mp inside with above | last
  · exact writable.1 name (List.mem_append_left _ above) nul
  · obtain rfl := List.mem_singleton.mp last
    exact writable.1 long (by simp [Path.below]) (within nul)

/-- An entry is found through the directory that it is an entry of. -/
theorem locate_below {directory : Path} {name : String} (rooted : tree.IsRooted) :
    tree.locate (directory.below name) = .ok key ↔
      Writable (directory.below name) ∧ Fits name ∧
        ∃ parent, tree.locate directory = .ok parent ∧ tree.get? parent = some .directory ∧
          key = entered parent name := by
  have start : tree.get? (origin (directory.below name)) = some .directory :=
    rooted.origin_stands _
  have same : origin (directory.below name) = origin directory := rfl
  -- The walk to the entry is the walk to the directory and one name more.
  simp only [locate_eq_ok]
  rw [show (directory.below name).components = directory.components ++ [name] from rfl,
    walk_concat rooted start, same]
  constructor
  · rintro ⟨writable, parent, found, stands, fits, entry⟩
    exact ⟨writable, fits, parent, ⟨writable.of_below, found⟩, stands, entry⟩
  · rintro ⟨writable, fits, parent, ⟨-, found⟩, stands, entry⟩
    exact ⟨writable, parent, found, stands, fits, entry⟩

/-- Entries with different names are in different places. -/
theorem locate_below_apart {directory : Path} {name other : String} (rooted : tree.IsRooted)
    (differ : name ≠ other) (found : tree.locate (directory.below name) = .ok key) :
    tree.locate (directory.below other) ≠ .ok key := by
  intro also
  -- Both are entries of the one directory, from which different names lead apart.
  obtain ⟨-, -, parent, located, -, rfl⟩ := (locate_below rooted).mp found
  obtain ⟨-, -, again, relocated, -, same⟩ := (locate_below rooted).mp also
  obtain rfl : parent = again := Except.ok.inj (located.symm.trans relocated)
  exact differ (entered_inj same)

/-- An entry can be followed where one can whose name holds all of its characters. -/
theorem locate_below_shorter {directory : Path} {short long : String} (rooted : tree.IsRooted)
    (down : long ≠ Path.parentMark) (within : short.toList ⊆ long.toList)
    (shorter : short.utf8ByteSize ≤ long.utf8ByteSize)
    (found : tree.locate (directory.below long) = .ok key) :
    ∃ place, tree.locate (directory.below short) = .ok place := by
  obtain ⟨writable, fits, parent, located, stands, -⟩ := (locate_below rooted).mp found
  have fits_short : Fits short := .inr (Nat.le_trans shorter (fits.resolve_left down))
  exact ⟨entered parent short, (locate_below rooted).mpr
    ⟨writable.shorter within shorter, fits_short, parent, located, stands, rfl⟩⟩

/-- Names none of which is a step up lead down by all of them. -/
theorem walk_straight {current names : List String} (straight : Path.parentMark ∉ names)
    (found : tree.walk current names = .ok key) : key = current ++ names := by
  -- Each name that is followed is put behind those before it.
  induction names generalizing current with
  | nil => simpa [walk, eq_comm] using found
  | cons name rest ih =>
    obtain ⟨down, further⟩ : Path.parentMark ≠ name ∧ Path.parentMark ∉ rest := by
      simpa using straight
    rw [walk, if_neg down.symm] at found
    split at found
    · cases found
    · split at found
      · rename_i last
        simpa [last, eq_comm] using found
      · split at found
        · cases found
        · cases found
        · simpa using ih further found

end AppSync.FileTree
