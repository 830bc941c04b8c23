/-!
# Paths

The parts of a path's text: its components, its last name, and the name's extension.
-/

namespace TypedFormat.Path

/-- The text between slashes. -/
def pieces (path : List Char) : List (List Char) :=
  path.foldr (fun c pieces =>
    if c = '/' then [] :: pieces
    else match pieces with
      | []            => [[c]]
      | piece :: rest => (c :: piece) :: rest) [[]]

/-- The names along a path. Slashes that follow one another count as one. -/
def components (path : String) : List String :=
  ((pieces path.toList).map String.ofList).filter (· ≠ "")

def isAbsolute (path : String) : Bool :=
  path.toList.head? == some '/'

/-- Whether a path ends in a slash, as only a directory's may. -/
def endsInSlash (path : String) : Bool :=
  path.toList.getLast? == some '/'

/-- A name in a directory. -/
def join (directory name : String) : String :=
  if directory.isEmpty || endsInSlash directory then directory ++ name
  else directory ++ "/" ++ name

/-- A name's stem and its extension, which follows the last point. A point in front begins no
extension. -/
def splitName (name : List Char) : List Char × Option (List Char) :=
  let extension := (name.reverse.takeWhile (· ≠ '.')).reverse
  let stem := name.take (name.length - extension.length - 1)
  if stem = [] then (name, none) else (stem, some extension)

/-- The extension of a name. -/
def extension? (name : String) : Option String :=
  (splitName name.toList).2.map String.ofList

/-- A last name with another extension. Without its own, a name that begins with two points and
has no third is `..`, which leads back and takes no extension. -/
def renamed (name extension : List Char) : List Char :=
  match splitName name with
  | (['.'], some _) => ['.', '.']
  | (stem, _)       => stem ++ '.' :: extension

/-- A path with another extension on its last name. -/
def withExtension (path extension : String) : String :=
  let text := path.toList
  let name := (text.reverse.takeWhile (· ≠ '/')).reverse
  let directory := text.take (text.length - name.length)
  String.ofList (directory ++ renamed name extension.toList)

end TypedFormat.Path
