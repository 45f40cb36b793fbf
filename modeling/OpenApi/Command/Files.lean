import OpenApi.Dict

/-!
# Files

What a command needs of the file system, and a directory that is held in memory.

## Main definitions

* `Files`: access to files.
* `extension?`: the extension of a path.
* `Directory`: the files of a directory, by path.
-/
namespace OpenApi.Command

/-- Access to files in a context of effects. -/
structure Files (m : Type → Type) where
  /-- Whether something is at a path. -/
  has : String → m Bool
  /-- The text of a file; none when it cannot be read. -/
  read : String → m (Option String)
  /-- Write a file, and tell whether it was written. -/
  write : String → String → m Bool

/-! ## Paths -/

/-- The parts of a path between slashes, without those that stay where they are. -/
def pathParts (path : String) : List String :=
  (path.splitOn "/").filter fun part => part != "" && part != "."

/-- The extension of a file name: what follows its last point, if something precedes it. -/
def nameExtension? (name : List Char) : Option String :=
  let reversed := name.reverse
  match reversed.dropWhile (· != '.') with
  | _ :: _ :: _ => some (String.ofList (reversed.takeWhile (· != '.')).reverse)
  | _ => none

/-- The extension of the last part of a path. -/
def extension? (path : String) : Option String :=
  match (pathParts path).getLast? with
  | none | some ".." => none
  | some name => nameExtension? name.toList

/-- The place of a path below a directory; none when it leaves the directory. -/
def placeBelow : (place : List String) → List String → Option (List String)
  | place, [] => some place.reverse
  | place, ".." :: rest => match place with
    | _ :: above => placeBelow above rest
    | [] => none
  | place, part :: rest => placeBelow (part :: place) rest

/-! ## A directory in memory -/

/-- The files of a directory by their paths. -/
abbrev Directory := Dict String

namespace Directory

/-- The place of a path in a directory; none when it lies outside. -/
def place? (path : String) : Option (List String) :=
  if path.startsWith "/" then none else placeBelow [] (pathParts path)

/-- The path of a place. -/
def pathOf (place : List String) : String := "/".intercalate place

/-- Whether a place is a directory: the whole, or what holds a file. -/
def isDirectory (directory : Directory) (place : List String) : Bool :=
  place.isEmpty || directory.names.any fun name =>
    place.isPrefixOf (name.splitOn "/") && name != pathOf place

/-- The text at a path. -/
def read (directory : Directory) (path : String) : Option String :=
  (place? path).bind fun place => directory.get? (pathOf place)

/-- Whether something is at a path. -/
def has (directory : Directory) (path : String) : Bool :=
  (place? path).any fun place =>
    (directory.get? (pathOf place)).isSome || directory.isDirectory place

/-- The directory after writing a file; none when a directory stands in its place, or none
holds it. -/
def write (directory : Directory) (path text : String) : Option Directory :=
  (place? path).bind fun place =>
    if !directory.isDirectory place && directory.isDirectory place.dropLast then
      some (directory.insert (pathOf place) text)
    else none

/-- Access to the files of a directory. -/
def files : Files (StateM Directory) where
  has path := return (← get).has path
  read path := return (← get).read path
  write path text := do
    match (← get).write path text with
    | some directory => set directory; return true
    | none => return false

end Directory

end OpenApi.Command
