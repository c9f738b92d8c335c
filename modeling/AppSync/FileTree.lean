import AppSync.Disk

/-! Trees of files and directories, and a disk that keeps one. -/

namespace AppSync

/-- Files and directories by the names that lead to them from the root. -/
structure FileTree where
  entries : List (List String × Stored)
deriving DecidableEq, Repr

namespace FileTree

/-- The directory in which paths without a root begin. -/
def home : List String := ["home"]

/-- A tree with nothing but the directory in which paths begin. -/
def empty : FileTree := ⟨[(home, .directory)]⟩

/-- What is stored under names; the root is always a directory. -/
def get? (key : List String) (tree : FileTree) : Option Stored :=
  if key = [] then some .directory
  else (tree.entries.find? fun entry => entry.1 = key).map (·.2)

/-- The tree without what is stored under names. -/
def erase (key : List String) (tree : FileTree) : FileTree :=
  ⟨tree.entries.filter fun entry => entry.1 ≠ key⟩

/-- The tree with something stored under names. -/
def set (key : List String) (stored : Stored) (tree : FileTree) : FileTree :=
  ⟨(tree.erase key).entries ++ [(key, stored)]⟩

/-- The longest name, in bytes. -/
def longestName : Nat := 255

/-- The longest path, in bytes. -/
def longestPath : Nat := 4095

/-- The names that components lead to from a directory; all but the last have to be directories. -/
def walk (tree : FileTree) (current : List String) : List String → Except Reply (List String)
  | [] => .ok current
  | name :: rest =>
    if name = Path.parentMark then walk tree current.dropLast rest
    else if longestName < name.utf8ByteSize then .error .longName
    else if rest = [] then .ok (current ++ [name])
    else
      match tree.get? (current ++ [name]) with
      | none => .error .missing
      | some (.file _) => .error .throughFile
      | some .directory => walk tree (current ++ [name]) rest

/-- The names that a path leads to. -/
def locate (tree : FileTree) (path : Path) : Except Reply (List String) :=
  if path.components.any fun name => name.toList.contains '\x00' then .error .nulInPath
  else if longestPath < path.toString.utf8ByteSize then .error .longName
  else tree.walk (if path.root = "" then home else []) path.components

/-- What stands at a path; nothing does where no directories lead to it. -/
def look (tree : FileTree) (path : Path) : Except Accident (Option Stored) :=
  match tree.locate path with
  | .ok key => .ok (tree.get? key)
  | .error .longName => .error (.longName path)
  | .error _ => .ok none

/-- Makes a directory where nothing is stored. -/
def makeDirectory (tree : FileTree) (key : List String) : Reply × FileTree :=
  match tree.get? key with
  | none => (.done, tree.set key .directory)
  | some .directory => (.taken true, tree)
  | some (.file _) => (.taken false, tree)

/-- Stores a file where nothing is stored. -/
def create (tree : FileTree) (key : List String) (bytes : List UInt8) : Reply × FileTree :=
  match tree.get? key with
  | none => (.done, tree.set key (.file bytes))
  | some .directory => (.taken true, tree)
  | some (.file _) => (.taken false, tree)

/-- Moves a file; a directory is not replaced. -/
def rename (tree : FileTree) (source target : List String) : Reply × FileTree :=
  match tree.get? source, tree.get? target with
  | some (.file bytes), some (.file _) => (.done, (tree.erase source).set target (.file bytes))
  | some (.file bytes), none => (.done, (tree.erase source).set target (.file bytes))
  | _, _ => (.refused, tree)

/-- Takes a file away. -/
def remove (tree : FileTree) (key : List String) : Reply × FileTree :=
  match tree.get? key with
  | some (.file _) => (.done, tree.erase key)
  | _ => (.refused, tree)

/-- Changes a tree. -/
def perform (tree : FileTree) : Change → Reply × FileTree
  | .makeDirectory path =>
    match tree.locate path with
    | .error reply => (reply, tree)
    | .ok key => tree.makeDirectory key
  | .create path bytes =>
    match tree.locate path with
    | .error reply => (reply, tree)
    | .ok key => tree.create key bytes
  | .rename source target =>
    match tree.locate source, tree.locate target with
    | .ok source, .ok target => tree.rename source target
    | .error reply, _ => (reply, tree)
    | _, .error reply => (reply, tree)
  | .remove path =>
    match tree.locate path with
    | .error reply => (reply, tree)
    | .ok key => tree.remove key

/-- The disk that keeps a tree. -/
def disk : Disk (StateM FileTree) where
  look path := do return (← get).look path
  perform change := modifyGet fun tree => tree.perform change

/-- The tree with the directories that lead to names. -/
def withParents (tree : FileTree) (key : List String) : FileTree :=
  (List.range (key.length - 1)).foldl
    (fun tree count =>
      let parent := key.take (count + 1)
      if (tree.get? parent).isSome then tree else tree.set parent .directory) tree

/-- A tree in which something stands at each of several paths, and directories lead there. -/
def ofList (contents : List (Path × Stored)) : FileTree :=
  contents.foldl
    (fun tree content =>
      let key := home ++ content.1.components
      (tree.withParents key).set key content.2) empty

/-- All that is stored below the directory in which paths begin, by path. -/
def toList (tree : FileTree) : List (Path × Stored) :=
  tree.entries.filterMap fun entry =>
    if home.isPrefixOf entry.1 ∧ entry.1 ≠ home then
      some (⟨"", entry.1.drop home.length⟩, entry.2)
    else none

end FileTree

end AppSync
