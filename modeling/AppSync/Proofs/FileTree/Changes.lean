import AppSync.Proofs.FileTree.Basic

/-! What each change does to a tree, and what its reply says of it. -/

namespace AppSync.FileTree

variable {tree after : FileTree} {key : List String} {path : Path}

/-- A run of two parts is a run of the first and then of the second. -/
theorem run_bind {α β : Type} {first : StateM FileTree α} {next : α → StateM FileTree β}
    {result : β × FileTree} (run : (first >>= next).run tree = result) :
    ∃ value middle, first.run tree = (value, middle) ∧ (next value).run middle = result :=
  ⟨_, _, rfl, run⟩

/-- The disk performs a change as its tree does. -/
theorem run_perform (tree : FileTree) (change : Change) :
    (disk.perform change).run tree = tree.perform change := rfl

/-- The replies to paths that lead nowhere. -/
def IsAstray (reply : Reply) : Prop :=
  reply = .missing ∨ reply = .throughFile ∨ reply = .longName ∨ reply = .nulInPath

/-- Names that lead nowhere end at what is missing, at a file or at a name that is too long. -/
theorem walk_astray {current names : List String} {reply : Reply}
    (lost : tree.walk current names = .error reply) : IsAstray reply := by
  unfold IsAstray
  -- A walk that goes on fails as the rest of it does; one that ends here says why.
  induction names generalizing current with
  | nil => simp [walk] at lost
  | cons name rest ih =>
    unfold walk at lost
    split at lost
    · exact ih lost
    · split at lost
      · simp_all
      · split at lost
        · cases lost
        · split at lost
          · simp_all
          · simp_all
          · exact ih lost

/-- A path that leads nowhere is said to do so. -/
theorem locate_astray {reply : Reply} (lost : tree.locate path = .error reply) :
    IsAstray reply := by
  -- The path is at fault by itself, or the walk along it fails.
  unfold locate at lost
  split at lost
  · exact .inr (.inr (.inr (by simpa [eq_comm] using lost)))
  · split at lost
    · exact .inr (.inr (.inl (by simpa [eq_comm] using lost)))
    · exact walk_astray lost

/-- A path that leads nowhere leaves no change behind, and is not reported as done. -/
theorem IsAstray.not_done {reply : Reply} (astray : IsAstray reply) : reply ≠ .done := by
  rintro rfl
  simp [IsAstray] at astray

/-- A file is stored where nothing stood, or nothing changes. -/
theorem perform_create {bytes : List UInt8} {reply : Reply}
    (performed : tree.perform (.create path bytes) = (reply, after)) :
    (reply ≠ .done ∧ after = tree) ∨
      (reply = .done ∧ ∃ key, tree.locate path = .ok key ∧ tree.get? key = none ∧
        after = tree.set key (.file bytes)) := by
  -- Only where the path leads to a free place is the reply that it is done.
  cases found : tree.locate path with
  | error fault =>
    have astray := locate_astray found
    simp only [perform, found, Prod.mk.injEq] at performed
    exact .inl ⟨performed.1 ▸ astray.not_done, performed.2.symm⟩
  | ok key =>
    simp only [perform, found, create] at performed
    split at performed <;> obtain ⟨rfl, rfl⟩ := Prod.mk.inj performed
    · rename_i free
      exact .inr ⟨rfl, key, rfl, free, rfl⟩
    · exact .inl ⟨nofun, rfl⟩
    · exact .inl ⟨nofun, rfl⟩

/-- A walk is not refused for the character of code zero. -/
theorem walk_ne_nulInPath {current names : List String} :
    tree.walk current names ≠ .error .nulInPath := by
  -- A walk that goes on is refused as the rest of it is.
  induction names generalizing current with
  | nil => simp [walk]
  | cons name rest ih =>
    unfold walk
    split
    · exact ih
    · split
      · simp
      · split
        · simp
        · split
          · simp
          · simp
          · exact ih

/-- A file is refused for the character of code zero exactly where its path holds it. -/
theorem perform_create_nulInPath {bytes : List UInt8} :
    (tree.perform (.create path bytes)).1 = .nulInPath ↔
      ∃ name ∈ path.components, '\x00' ∈ name.toList := by
  have holds : (path.components.any fun name => name.toList.contains '\x00') = true ↔
      ∃ name ∈ path.components, '\x00' ∈ name.toList := by
    simp only [List.any_eq_true, List.contains_iff_mem]
  rw [← holds]
  -- The path is checked before it is walked, and nothing later is refused like this.
  simp only [perform, locate]
  split
  · rename_i found
    split at found
    · rename_i nul
      exact iff_of_true (Except.error.inj found).symm nul
    · rename_i clear
      refine iff_of_false (fun refused => ?_) clear
      dsimp only at refused
      subst refused
      split at found
      · cases found
      · exact walk_ne_nulInPath found
  · rename_i key found
    split at found
    · cases found
    · rename_i clear
      refine iff_of_false (fun refused => ?_) clear
      unfold create at refused
      split at refused <;> cases refused

/-- A file at one path that can take another one. -/
structure Moves (tree : FileTree) (source target : Path) (start goal : List String)
    (bytes : List UInt8) : Prop where
  source : tree.locate source = .ok start
  target : tree.locate target = .ok goal
  stands : tree.get? start = some (.file bytes)
  free : tree.get? goal ≠ some .directory

/-- A file takes the place of a file or of nothing, or nothing changes. -/
theorem perform_rename {source target : Path} {reply : Reply}
    (performed : tree.perform (.rename source target) = (reply, after)) :
    (reply ≠ .done ∧ after = tree ∧
        ∀ start goal bytes, ¬tree.Moves source target start goal bytes) ∨
      (reply = .done ∧ ∃ start goal bytes, tree.Moves source target start goal bytes ∧
        after = (tree.erase start).set goal (.file bytes)) := by
  cases leaving : tree.locate source with
  | error fault =>
    -- A file that moves has a path that leads to it, and one that leads to its goal.
    simp only [perform, leaving] at performed
    obtain ⟨rfl, rfl⟩ := Prod.mk.inj performed
    refine .inl ⟨(locate_astray leaving).not_done, rfl, fun _ _ _ moves => ?_⟩
    cases leaving.symm.trans moves.source
  | ok start =>
    cases taking : tree.locate target with
    | error fault =>
      simp only [perform, leaving, taking] at performed
      obtain ⟨rfl, rfl⟩ := Prod.mk.inj performed
      refine .inl ⟨(locate_astray taking).not_done, rfl, fun _ _ _ moves => ?_⟩
      cases taking.symm.trans moves.target
    | ok goal =>
      simp only [perform, leaving, taking, rename] at performed
      split at performed <;> obtain ⟨rfl, rfl⟩ := Prod.mk.inj performed
      · -- A file is replaced.
        rename_i bytes _ stands replaced
        exact .inr ⟨rfl, start, goal, bytes, ⟨leaving, taking, stands, by simp [replaced]⟩, rfl⟩
      · -- Nothing was there.
        rename_i bytes stands replaced
        exact .inr ⟨rfl, start, goal, bytes, ⟨leaving, taking, stands, by simp [replaced]⟩, rfl⟩
      · -- In any other case no file could have moved.
        rename_i other others
        refine .inl ⟨nofun, rfl, fun start' goal' bytes moves => ?_⟩
        obtain ⟨rfl⟩ := Except.ok.inj (leaving.symm.trans moves.source)
        obtain ⟨rfl⟩ := Except.ok.inj (taking.symm.trans moves.target)
        cases stands : tree.get? goal with
        | none => exact others bytes moves.stands stands
        | some stored =>
          cases stored with
          | directory => exact moves.free stands
          | file replaced => exact other bytes replaced moves.stands stands

/-- A file that takes a place concerns the names that it leaves and those that it takes. -/
theorem Moves.same {source target : Path} {start goal : List String} {bytes : List UInt8}
    (moves : tree.Moves source target start goal bytes) :
    SameBut (fun key => key = start ∨ key = goal) tree
      ((tree.erase start).set goal (.file bytes)) := by
  -- The file leaves its place first, which takes no directory away from its goal.
  have left : SameBut (fun key => key = start ∨ key = goal) tree (tree.erase start) :=
    (SameBut.erase moves.stands).mono fun _ => .inl
  refine left.trans ((SameBut.set ?_ bytes).mono fun _ => .inr)
  exact fun stands => moves.free ((left.directories goal).mp stands)

/-- A file stands in the place that it takes. -/
theorem Moves.arrived {source target : Path} {start goal : List String} {bytes : List UInt8}
    (moves : tree.Moves source target start goal bytes) :
    ((tree.erase start).set goal (.file bytes)).get? goal = some (.file bytes) := by
  have named : goal ≠ [] := ne_nil_of_get? rfl moves.free
  simp [get?_set, named]

/-- A file is taken away, or nothing changes. -/
theorem perform_remove {reply : Reply}
    (performed : tree.perform (.remove path) = (reply, after)) :
    after = tree ∨ ∃ key bytes, tree.locate path = .ok key ∧ tree.get? key = some (.file bytes) ∧
      after = tree.erase key := by
  -- Only a file that the path leads to is taken away.
  cases found : tree.locate path with
  | error fault =>
    simp only [perform, found, Prod.mk.injEq] at performed
    exact .inl performed.2.symm
  | ok key =>
    simp only [perform, found, remove] at performed
    split at performed <;> obtain ⟨rfl, rfl⟩ := Prod.mk.inj performed
    · rename_i bytes stands
      exact .inr ⟨key, bytes, rfl, stands, rfl⟩
    · exact .inl rfl

/-- Taking a file away concerns its own place, where no file stands in the end. -/
theorem perform_remove_effect {reply : Reply}
    (performed : tree.perform (.remove path) = (reply, after)) :
    SameBut (fun key => tree.locate path = .ok key) tree after ∧
      ∀ key, tree.locate path = .ok key → ∀ bytes, after.get? key ≠ some (.file bytes) := by
  -- A path that leads nowhere changes nothing, and neither does one to a directory.
  cases found : tree.locate path with
  | error fault =>
    simp only [perform, found, Prod.mk.injEq] at performed
    obtain ⟨-, rfl⟩ := performed
    exact ⟨.refl _ _, nofun⟩
  | ok key =>
    simp only [perform, found, remove] at performed
    split at performed <;> obtain ⟨-, rfl⟩ := Prod.mk.inj performed
    · rename_i bytes stands
      have named : key ≠ [] := ne_nil_of_get? stands (by simp)
      refine ⟨(SameBut.erase stands).mono fun other same => congrArg _ same.symm, ?_⟩
      intro other same bytes
      obtain rfl := Except.ok.inj same
      simp [get?_erase, named]
    · rename_i none
      refine ⟨.refl _ _, fun other same bytes stands => ?_⟩
      obtain rfl := Except.ok.inj same
      exact none bytes stands

/-- A directory is made where nothing stood, or nothing changes. -/
theorem perform_makeDirectory {reply : Reply}
    (performed : tree.perform (.makeDirectory path) = (reply, after)) :
    ((∀ key, tree.locate path ≠ .ok key) ∧ IsAstray reply ∧ after = tree) ∨
      ∃ key, tree.locate path = .ok key ∧
        ((tree.get? key = none ∧ reply = .done ∧ after = tree.set key .directory) ∨
          (tree.get? key = some .directory ∧ reply = .taken true ∧ after = tree) ∨
          (tree.get? key ≠ some .directory ∧ reply = .taken false ∧ after = tree)) := by
  -- The reply tells what stands where the path leads: nothing, a directory or a file.
  cases found : tree.locate path with
  | error fault =>
    simp only [perform, found] at performed
    obtain ⟨rfl, rfl⟩ := Prod.mk.inj performed
    exact .inl ⟨nofun, locate_astray found, rfl⟩
  | ok key =>
    refine .inr ⟨key, rfl, ?_⟩
    simp only [perform, found, makeDirectory] at performed
    split at performed <;> obtain ⟨rfl, rfl⟩ := Prod.mk.inj performed
    · rename_i free
      exact .inl ⟨free, rfl, rfl⟩
    · rename_i stands
      exact .inr (.inl ⟨stands, rfl, rfl⟩)
    · rename_i bytes stands
      exact .inr (.inr ⟨by simp [stands], rfl, rfl⟩)

end AppSync.FileTree
