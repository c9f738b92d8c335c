import AppSync.Config.Basic

/-! Entries of directories: their components, and how their written forms compare. -/

namespace AppSync

/-- A text without separators is one part. -/
theorem Text.split_eq_singleton {isSeparator : Char → Bool} {text : List Char}
    (clear : ∀ c ∈ text, isSeparator c = false) : split isSeparator text = [text] := by
  induction text with
  | nil => rfl
  | cons c rest ih =>
    have rest_clear := ih fun other inside => clear other (.tail _ inside)
    simp [split, clear c (.head _), rest_clear]

/-- No part of a text holds a separator. -/
theorem Text.split_clear {isSeparator : Char → Bool} {text part : List Char}
    (inside : part ∈ split isSeparator text) : ∀ c ∈ part, isSeparator c = false := by
  -- A character joins the first part behind it, unless it is a separator.
  induction text generalizing part with
  | nil => simp_all [split]
  | cons c rest ih =>
    unfold split at inside
    split at inside
    · rcases List.mem_cons.mp inside with rfl | later
      · simp
      · exact ih later
    · rename_i plain
      split at inside
      · simp_all
      · rename_i first more parts
        rcases List.mem_cons.mp inside with rfl | later
        · have first_clear := ih (show first ∈ split isSeparator rest by simp [parts])
          simpa [plain] using first_clear
        · exact ih (by simp [parts, later])

namespace Path

variable {directory : Path} {name : String}

/-- The path of an entry with a name of its own. -/
def below (directory : Path) (name : String) : Path :=
  ⟨directory.root, directory.components ++ [name]⟩

@[simp] theorem below_parent (directory : Path) (name : String) :
    (directory.below name).parent = directory := by
  simp [below, parent]

@[simp] theorem below_name (directory : Path) (name : String) :
    (directory.below name).name = name := by
  simp [below, Path.name]

/-- A text without slashes is a path of one component. -/
theorem ofString_of_no_slash (clear : '/' ∉ name.toList) (filled : name ≠ "") (other : name ≠ ".") :
    ofString name = ⟨"", [name]⟩ := by
  -- The separators split nothing off, neither a root nor a part.
  have whole : Text.split (· = '/') name.toList = [name.toList] := by
    refine Text.split_eq_singleton fun c inside => ?_
    simpa using fun slash : c = '/' => clear (slash ▸ inside)
  have first : name.toList.takeWhile (fun c => decide (c = '/')) = [] := by
    cases chars : name.toList with
    | nil => rfl
    | cons c rest =>
      have plain : c ≠ '/' := fun slash => clear (by simp [chars, slash])
      simp [plain]
  have kept : name.toList ≠ [] ∧ name.toList ≠ ['.'] :=
    ⟨by simpa using filled, fun dot => other (by simpa using congrArg String.ofList dot)⟩
  simp [ofString, rootOf, whole, first, kept.1, kept.2]

/-- A text without slashes that can name an entry names it by all of itself. -/
theorem entry_of_no_slash (clear : '/' ∉ name.toList) (filled : name ≠ "") (other : name ≠ ".") :
    directory.entry name = directory.below name := by
  simp [entry, join, below, ofString_of_no_slash clear filled other]

/-- A plain name holds no slash, and is neither empty nor a single dot. -/
theorem plain_of_isPlainName (plain : isPlainName name = true) :
    '/' ∉ name.toList ∧ name ≠ "" ∧ name ≠ "." := by
  obtain ⟨filled, last⟩ : name ≠ "" ∧ (ofString name).name = name := by
    simpa [isPlainName] using plain
  -- The name is the last of its parts, which the separators have left whole.
  have part : name.toList ∈ (Text.split (· = '/') name.toList).filter
      fun part => part ≠ [] && part ≠ ['.'] := by
    unfold Path.name at last
    cases chosen : (ofString name).components.getLast? with
    | none => exact (filled (by simpa [chosen] using last.symm)).elim
    | some component =>
      have same : component = name := by simpa [chosen] using last
      subst same
      obtain ⟨chars, inside, written⟩ := List.mem_map.mp (List.mem_of_getLast? chosen)
      simpa [← written] using inside
  obtain ⟨inside, kept⟩ := List.mem_filter.mp part
  refine ⟨fun slash => ?_, filled, ?_⟩
  · simpa using Text.split_clear inside '/' slash
  · rintro rfl
    simp at kept

/-- A name is plain if it is filled, holds no slash and is no single dot. -/
theorem isPlainName_iff : isPlainName name = true ↔ '/' ∉ name.toList ∧ name ≠ "" ∧ name ≠ "." := by
  refine ⟨plain_of_isPlainName, ?_⟩
  -- Such a name is the only component of its path.
  rintro ⟨clear, filled, other⟩
  simp [isPlainName, ofString_of_no_slash clear filled other, Path.name, filled]

/-- An entry with a plain name is one component further. -/
theorem entry_plainName (directory : Path) (name : PlainName) :
    directory.entry name.1 = directory.below name.1 := by
  obtain ⟨clear, filled, other⟩ := plain_of_isPlainName name.2
  exact entry_of_no_slash clear filled other

/-- A path is written as its root and its components, or as a dot where it has neither. -/
theorem toString_cases (path : Path) :
    path.toString = "." ∧ path.root ++ String.intercalate "/" path.components = "" ∨
      path.toString = path.root ++ String.intercalate "/" path.components := by
  unfold toString
  dsimp only
  split
  · rename_i empty
    exact .inl ⟨rfl, empty⟩
  · exact .inr rfl

/-- The characters of an entry's path are those of its directory and of its name, and separators. -/
theorem mem_toString_below {directory : Path} {name : String} {c : Char}
    (inside : c ∈ (directory.below name).toString.toList) :
    c ∈ directory.toString.toList ∨ c ∈ name.toList ∨ c = '/' ∨ c = '.' := by
  -- What is written in front of the name is in the path of the directory.
  have kept (front : c ∈ (directory.root ++ String.intercalate "/" directory.components).toList) :
      c ∈ directory.toString.toList := by
    rcases toString_cases directory with ⟨-, empty⟩ | written
    · rw [empty] at front
      cases front
    · rwa [written]
  rw [String.toList_append, List.mem_append] at kept
  rcases toString_cases (directory.below name) with ⟨dot, -⟩ | written
  · rw [dot] at inside
    exact .inr (.inr (.inr (List.mem_singleton.mp inside)))
  · rw [written, String.toList_append, List.mem_append] at inside
    rcases inside with root | behind
    · exact .inl (kept (.inl root))
    · unfold below at behind
      by_cases none : directory.components = []
      · rw [none, List.nil_append, String.intercalate_singleton] at behind
        exact .inr (.inl behind)
      · rw [String.intercalate_append_of_ne_nil none (by simp), String.intercalate_singleton,
          String.toList_append, String.toList_append, List.mem_append, List.mem_append] at behind
        rcases behind with (front | slash) | last
        · exact .inl (kept (.inr front))
        · exact .inr (.inr (.inl (List.mem_singleton.mp slash)))
        · exact .inr (.inl last)

/-- How many bytes the written form of a path takes. -/
theorem utf8ByteSize_toString (path : Path) :
    path.toString.utf8ByteSize =
      max 1 (path.root.utf8ByteSize + (String.intercalate "/" path.components).utf8ByteSize) := by
  unfold toString
  dsimp only
  split
  · -- A path without root and components is written as a dot.
    rename_i nothing
    have size := congrArg String.utf8ByteSize nothing
    rw [String.utf8ByteSize_append] at size
    rw [size]
    rfl
  · -- Any other one takes a byte at least.
    rename_i something
    rw [← String.utf8ByteSize_append]
    have filled := mt String.utf8ByteSize_eq_zero_iff.mp something
    omega

/-- How many bytes components take behind others. -/
theorem utf8ByteSize_intercalate_append (components : List String) (name : String) :
    (String.intercalate "/" (components ++ [name])).utf8ByteSize =
      (String.intercalate "/" components).utf8ByteSize + (if components = [] then 0 else 1) +
        name.utf8ByteSize := by
  -- A separator stands in front of the name unless the name is alone.
  by_cases none : components = []
  · simp [none]
  · rw [String.intercalate_append_of_ne_nil none (by simp)]
    simp [none, String.utf8ByteSize_append]
    rfl

/-- A directory takes no more bytes than its entries do. -/
theorem utf8ByteSize_toString_le_below (directory : Path) (name : String) :
    directory.toString.utf8ByteSize ≤ (directory.below name).toString.utf8ByteSize := by
  simp only [utf8ByteSize_toString, below, utf8ByteSize_intercalate_append]
  omega

/-- An entry with a shorter name takes fewer bytes. -/
theorem utf8ByteSize_toString_below_mono {short long : String}
    (shorter : short.utf8ByteSize ≤ long.utf8ByteSize) :
    (directory.below short).toString.utf8ByteSize ≤
      (directory.below long).toString.utf8ByteSize := by
  simp only [utf8ByteSize_toString, below, utf8ByteSize_intercalate_append]
  omega

end Path

end AppSync
