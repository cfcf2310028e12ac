import ViewTemplate.Table
import ViewTemplate.Text.Search

/-!
# File trees

A file system as a tree of directories and files, and what a path leads to in it.

## Main Definitions

* `FileTree` — a file or a directory
* `Location` — the names that lead from the root of a tree to one of its places
* `FileTree.locate` — where a path leads
* `FileTree.readText` — the text of the file that a path leads to
* `FileTree.write` — a tree with another file
* `joinPaths` — a path that starts from another one
* `FileFault` — why a path leads to no text
* `maxNameSize`, `maxPathSize` — the greatest numbers of bytes in a name and in a path

## Design Notes

A path is followed name by name, and every name that is followed, also `.` and `..` and the empty
name behind a closing slash, must stand in a directory that exists. There are no links. The first
name that cannot be followed decides what is wrong; only the size of the whole path is looked at
before.
-/

namespace ViewTemplate

/-- A file, or a directory with its entries by name. -/
inductive FileTree where
  | file (content : ByteArray)
  | directory (entries : List (String × FileTree))

/-- The names that lead from the root of a tree to one of its places. -/
abbrev Location := List String

/-- The path of a location from the root. -/
def Location.path (location : Location) : String :=
  "/" ++ "/".intercalate location

/-- Why a path leads to no text. -/
inductive FileFault where
  | notFound
  | notADirectory
  | isADirectory
  /-- A name or the whole path has too many bytes. -/
  | nameTooLong
  /-- The bytes of the file are not the encoding of a text. -/
  | notText
deriving Repr, DecidableEq

/-- The wording of a fault. -/
def FileFault.message : FileFault → String
  | notFound => "No such file or directory (os error 2)"
  | notADirectory => "Not a directory (os error 20)"
  | isADirectory => "Is a directory (os error 21)"
  | nameTooLong => "File name too long (os error 36)"
  | notText => "stream did not contain valid UTF-8"

/-! ### Paths -/

/-- The greatest number of bytes in a name. -/
def maxNameSize : Nat := 255

/-- The greatest number of bytes in a path. -/
def maxPathSize : Nat := 4095

/-- The names of a path, between its slashes. -/
def pathNames (path : String) : List String :=
  (Text.splitOn path.toList ['/']).map String.ofList

/-- Whether a path starts from the root. -/
def isAbsolutePath (path : String) : Bool :=
  Text.startsWith path.toList ['/']

/-- The path that starts from `base`, unless it starts from the root. -/
def joinPaths (base path : String) : String :=
  if isAbsolutePath path || base = "" then path
  else if Text.endsWith base.toList ['/'] then base ++ path
  else base ++ "/" ++ path

namespace FileTree

/-! ### Places -/

/-- What is at a location. -/
def at? : FileTree → Location → Option FileTree
  | tree, [] => some tree
  | directory entries, name :: rest =>
    match Table.get? entries name with
    | some entry => at? entry rest
    | none => none
  | file _, _ :: _ => none

/-- The location that names lead to from another location. -/
def follow (tree : FileTree) (place : Location) : List String → Except FileFault Location
  | [] => .ok place
  | name :: rest =>
    match tree.at? place with
    | none => .error .notFound
    | some (file _) => .error .notADirectory
    | some (directory entries) =>
      if name = "" || name = "." then follow tree place rest
      else if name = ".." then follow tree place.dropLast rest
      else if maxNameSize < name.utf8ByteSize then .error .nameTooLong
      else if Table.contains entries name then follow tree (place ++ [name]) rest
      else .error .notFound

/-- The location that a path leads to, from `start` unless it starts from the root. -/
def locate (tree : FileTree) (start : Location) (path : String) : Except FileFault Location :=
  if path = "" then .error .notFound
  else if maxPathSize < path.utf8ByteSize then .error .nameTooLong
  else tree.follow (if isAbsolutePath path then [] else start) (pathNames path)

/-! ### Files -/

/-- The location of the file that a path leads to. -/
def locateFile? (tree : FileTree) (start : Location) (path : String) : Option Location :=
  match tree.locate start path with
  | .error _ => none
  | .ok location =>
    match tree.at? location with
    | some (file _) => some location
    | _ => none

/-- The text of the file that a path leads to. -/
def readText (tree : FileTree) (start : Location) (path : String) : Except FileFault String := do
  match tree.at? (← tree.locate start path) with
  | none => throw .notFound
  | some (directory _) => throw .isADirectory
  | some (file content) =>
    match String.fromUTF8? content with
    | some text => return text
    | none => throw .notText

/-- A tree with `entry` at a location, inside directories that are made where they are missing. -/
def put (entry : FileTree) : FileTree → Location → FileTree
  | _, [] => entry
  | directory entries, name :: rest =>
    let inner := (Table.get? entries name).getD (directory [])
    directory (Table.set entries name (put entry inner rest))
  | file _, name :: rest => directory [(name, put entry (directory []) rest)]

/-- The location that names stand for, whether or not anything is there. -/
def placeOfNames : Location → List String → Location
  | place, [] => place
  | place, name :: rest =>
    if name = "" || name = "." then placeOfNames place rest
    else if name = ".." then placeOfNames place.dropLast rest
    else placeOfNames (place ++ [name]) rest

/-- The location that a path stands for, whether or not anything is there. -/
def placeOf (start : Location) (path : String) : Location :=
  placeOfNames (if isAbsolutePath path then [] else start) (pathNames path)

/-- A tree with a directory at a location, unless anything is there. -/
def makeDirectory (tree : FileTree) (place : Location) : FileTree :=
  if (tree.at? place).isSome then tree else put (directory []) tree place

/-- A tree with a directory at each location that all but the last of the names lead through. -/
def makeDirectories (tree : FileTree) (place : Location) : List String → FileTree
  | [] => tree
  | name :: rest => makeDirectories (tree.makeDirectory place) (placeOfNames place [name]) rest

/-- A tree with a file at the place that a path stands for. Every directory on the way is made where
it is missing. -/
def write (tree : FileTree) (start : Location) (path : String) (content : ByteArray) : FileTree :=
  let start := if isAbsolutePath path then [] else start
  let names := pathNames path
  put (file content) (tree.makeDirectories start names) (placeOfNames start names)

/-- The number of files in a tree. -/
def fileCount : FileTree → Nat
  | file _ => 1
  | directory entries => countEntries entries
where
  /-- The number of files among entries. -/
  countEntries : List (String × FileTree) → Nat
    | [] => 0
    | (_, entry) :: rest => fileCount entry + countEntries rest

end FileTree

end ViewTemplate
