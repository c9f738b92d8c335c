import AppSync.Text.Split

/-! File paths: a root mark and components, as they are written and joined. -/

namespace AppSync

/-- A path; its root mark is empty for a relative one, and no component is empty or a single dot. -/
structure Path where
  root : String
  components : List String
deriving DecidableEq, Repr, Inhabited

namespace Path

/-- The component that names a directory's parent. -/
def parentMark : String := ".."

/-- A leading slash makes a root; exactly two of them make one of its own. -/
def rootOf (text : List Char) : String :=
  match (text.takeWhile (· = '/')).length with
  | 0 => ""
  | 2 => "//"
  | _ => "/"

/-- The path that a text names; empty parts and single dots stand for nothing. -/
def ofString (text : String) : Path :=
  let parts := (Text.split (· = '/') text.toList).filter fun part => part ≠ [] && part ≠ ['.']
  ⟨rootOf text.toList, parts.map String.ofList⟩

/-- The written form of a path; one without parts is the current directory. -/
def toString (path : Path) : String :=
  let text := path.root ++ String.intercalate "/" path.components
  if text = "" then "." else text

/-- The last component, or nothing. -/
def name (path : Path) : String :=
  path.components.getLast?.getD ""

/-- The path without its last component. -/
def parent (path : Path) : Path :=
  { path with components := path.components.dropLast }

/-- Whether a text can name a directory only, since its last part is behind a slash. -/
def namesDirectory (text : String) : Bool :=
  match text.toList.reverse with
  | '/' :: _ => true
  | '.' :: '/' :: _ => true
  | _ => false

/-- A path below another; one with a root stands for itself. -/
def join (path below : Path) : Path :=
  if below.root ≠ "" then below else { path with components := path.components ++ below.components }

/-- A named entry of a directory. -/
def entry (path : Path) (name : String) : Path :=
  path.join (ofString name)

/-- Whether a text is the last component of the path that it names. -/
def isPlainName (text : String) : Bool :=
  text ≠ "" && (ofString text).name = text

end Path

end AppSync
