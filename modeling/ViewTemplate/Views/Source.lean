import ViewTemplate.Views.Error

/-!
# Sources of views

Where the texts of views come from: a table in memory, or a directory of files.

## Main Definitions

* `ViewSource` — a place that holds views
* `ViewSource.resolve` — the key of the view that a path names
* `ViewSource.load` — the text of the view that a key stands for
* `ViewSource.viewCount` — a bound on the number of keys
-/

namespace ViewTemplate

/-- A path without the steps in front of it that lead nowhere: first every `./`, then every
slash. -/
def canonicalViewPath (path : String) : String :=
  String.ofList ((dropHere path.toList).dropWhile (· = '/'))
where
  /-- The rest of a text behind all the `./` that it starts with. -/
  dropHere : List Char → List Char
    | '.' :: '/' :: rest => dropHere rest
    | text => text

/-- A place that holds views. -/
inductive ViewSource where
  /-- Texts of views by key. -/
  | memory (views : Table String)
  /-- Files under `root`, which is a path from the location `start`. -/
  | files (tree : FileTree) (start : Location) (root : String)

namespace ViewSource

/-- The source in memory of views by path. -/
def ofViews (views : List (String × String)) : ViewSource :=
  memory (Table.ofEntries (views.map fun (path, source) => (canonicalViewPath path, source)))

/-- The key of the view that a path names. -/
def resolve (source : ViewSource) (path : String) : Except ViewError String :=
  match source with
  | memory views =>
    let key := canonicalViewPath path
    if views.contains key then .ok key else .error (.notFound path)
  | files tree start root =>
    match tree.locateFile? start (joinPaths root path) with
    | some location => .ok location.path
    | none => .error (.notFound path)

/-- The text of the view that a key stands for. -/
def load (source : ViewSource) (key : String) : Except ViewError String :=
  match source with
  | memory views =>
    match views.get? key with
    | some text => .ok text
    | none => .error (.notFound key)
  | files tree start _ => (tree.readText start key).mapError (.unreadable key)

/-- How many views there are at most. -/
def viewCount : ViewSource → Nat
  | memory views => views.length
  | files tree _ _ => tree.fileCount

end ViewSource

end ViewTemplate
