import TypedFormat.Files.Fault
import TypedFormat.Files.Path

/-!
# File trees

The files and directories of a machine, and the directory in which a program works. A directory
exists if it was made, if something is in it or below it, or if the program works there.

A path is followed name by name from the root or from the working directory, and every place
that it passes has to be a directory. `.` stays and `..` goes back, at the root to the root
itself. Names and whole paths have a greatest length, counted in bytes. A file is read or
written at the last name of a path, which may not be followed by a slash.
-/

namespace TypedFormat

/-- What stands at a place in a tree. -/
inductive FileNode where
  | file (bytes : List UInt8)
  | directory
deriving DecidableEq

/-- Nodes by the names that lead to them from the root. -/
structure FileTree where
  nodes : List (List String × FileNode) := []
  /-- The place from which a path leads on if it does not begin with a slash. -/
  workingDirectory : List String := []

namespace FileTree

/-! ### Places -/

/-- The places known to exist, to which those on the way there have to be added. -/
def places (tree : FileTree) : List (List String) :=
  tree.workingDirectory :: tree.nodes.map (·.1)

/-- What stands at a place. -/
def find? (tree : FileTree) (place : List String) : Option FileNode :=
  match tree.nodes.lookup place with
  | some node => some node
  | none      => if tree.places.any place.isPrefixOf then some .directory else none

/-- Puts a node at a place, instead of what was there. -/
def insert (tree : FileTree) (place : List String) (node : FileNode) : FileTree :=
  { tree with nodes := (place, node) :: tree.nodes.filter (·.1 ≠ place) }

/-- The names in a directory, each once. -/
def names (tree : FileTree) (place : List String) : List String :=
  (tree.places.filterMap fun other =>
    if place.isPrefixOf other then (other.drop place.length).head? else none).eraseDups

/-- The place itself, if it is a directory. -/
def directory (tree : FileTree) (place : List String) : Except FileFault (List String) :=
  match tree.find? place with
  | none            => .error .notFound
  | some (.file _)  => .error .notDirectory
  | some .directory => .ok place

/-! ### Following paths -/

/-- The greatest number of bytes in a name. -/
def longestName : Nat := 255

/-- The greatest number of bytes in a path. -/
def longestPath : Nat := 4095

/-- The place that a name leads to from a directory. -/
def step (place : List String) (name : String) : Except FileFault (List String) :=
  if name = "." then .ok place
  else if name = ".." then .ok place.dropLast
  else if name.utf8ByteSize ≤ longestName then .ok (place ++ [name])
  else .error .nameTooLong

/-- Goes along names from a place, through directories only. -/
def walk (tree : FileTree) : List String → List String → Except FileFault (List String)
  | place, []            => .ok place
  | place, name :: names => do
    let place ← step (← tree.directory place) name
    tree.walk place names

/-- The place where a path begins. -/
def start (tree : FileTree) (path : String) : Except FileFault (List String) :=
  if path.toList.contains '\x00' then .error .notPath
  else if path.isEmpty then .error .notFound
  else if longestPath < path.utf8ByteSize then .error .nameTooLong
  else .ok (if Path.isAbsolute path then [] else tree.workingDirectory)

/-- The place that a path leads to. -/
def resolve (tree : FileTree) (path : String) : Except FileFault (List String) := do
  tree.walk (← tree.start path) (Path.components path)

/-! ### Directories and files -/

/-- The names in the directory at a path. -/
def namesAt (tree : FileTree) (path : String) : Except FileFault (List String) := do
  let place ← tree.directory (← tree.resolve path)
  pure (tree.names place)

/-- The bytes of the file at a path. -/
def bytesAt (tree : FileTree) (path : String) : Except FileFault (List UInt8) := do
  let place ← tree.resolve path
  match tree.find? place with
  | none               => .error .notFound
  | some .directory    => .error .isDirectory
  | some (.file bytes) =>
    if Path.endsInSlash path then .error .notDirectory else .ok bytes

/-- The place for a file at a path. The directory in which it stands must exist, and what is
there already must not be a directory itself. -/
def placeForFile (tree : FileTree) (path : String) : Except FileFault (List String) := do
  let begin ← tree.start path
  let names := Path.components path
  let place ← tree.walk begin names.dropLast
  match names.getLast? with
  | none      => .error .isDirectory
  | some name =>
    let place ← tree.directory place
    if name = "." ∨ name = ".." ∨ Path.endsInSlash path then .error .isDirectory
    else
      let place ← step place name
      if tree.find? place = some .directory then .error .isDirectory else .ok place

/-- The tree with a file of these bytes at a path. -/
def writeFile (tree : FileTree) (path : String) (bytes : List UInt8) :
    Except FileFault FileTree := do
  let place ← tree.placeForFile path
  pure (tree.insert place (.file bytes))

end FileTree

end TypedFormat
