import Mathlib.Data.List.Induction
import Mathlib.Tactic.SplitIfs
import ViewTemplate.Views.Source

/-!
# Where the paths of views lead

The view of a path in a directory is found by joining the path to the root and following
it name by name.  Nothing on the way asks whether the place that is reached is still
below the root.  What can be said is what following gives: the place that the path stands
for, written out from the place of the root, whatever else is in the tree
(`FileTree.follow_eq`).

A name that leads up undoes the one before it.  So a path stays below the root as long as
no name leads up more often than others before it led down (`leadsAbove`).  A path that
leads above the root, or that starts from the root of the tree, is followed all the same,
and the file that it leads to is a view.

## Main Definitions

* `Location.Canonical` — a location whose names are names of entries
* `leadsAbove` — names that lead above the place they start from

## Main Results

* `ViewSource.resolve_placeOf` — the key of a file is the place that its path stands for

-/

namespace ViewTemplate

/-! ## The names of a path -/

section Names

open Text

/-- A slash ends the name before it. -/
theorem splitFrom_slash (piece text : List Char) :
    splitFrom ['/'] piece 0 ('/' :: text) = piece.reverse :: splitFrom ['/'] [] 0 text := by
  simp [splitFrom, startsWith, after?]

/-- Any other character belongs to a name. -/
theorem splitFrom_of_ne {c : Char} (other : c ≠ '/') (piece text : List Char) :
    splitFrom ['/'] piece 0 (c :: text) = splitFrom ['/'] (c :: piece) 0 text := by
  simp [splitFrom, startsWith, after?, other.symm]

/-- What stands before a slash and what stands behind it are cut apart. -/
theorem splitFrom_append_slash (piece before behind : List Char) :
    splitFrom ['/'] piece 0 (before ++ '/' :: behind)
      = splitFrom ['/'] piece 0 before ++ splitFrom ['/'] [] 0 behind := by
  induction before generalizing piece with
  | nil => simp [splitFrom_slash, splitFrom]
  | cons c rest ih =>
    rw [List.cons_append]
    by_cases slash : c = '/'
    · subst slash
      simp [splitFrom_slash, ih]
    · simp [splitFrom_of_ne slash, ih]

theorem slash_notMem_of_mem_splitFrom {piece text name : List Char} (plain : '/' ∉ piece)
    (mem : name ∈ splitFrom ['/'] piece 0 text) : '/' ∉ name := by
  induction text generalizing piece with
  | nil =>
    have same : name = piece.reverse := by simpa [splitFrom] using mem
    simpa [same] using plain
  | cons c rest ih =>
    by_cases slash : c = '/'
    · subst slash
      rw [splitFrom_slash] at mem
      rcases List.mem_cons.1 mem with rfl | mem
      · simpa using plain
      · exact ih List.not_mem_nil mem
    · rw [splitFrom_of_ne slash] at mem
      exact ih (by simp [plain, Ne.symm slash]) mem

/-- The names of a path hold no slash. -/
theorem slash_notMem_of_mem_pathNames {path name : String} (mem : name ∈ pathNames path) :
    '/' ∉ name.toList := by
  obtain ⟨piece, cut, rfl⟩ := List.mem_map.1 mem
  rw [String.toList_ofList]
  exact slash_notMem_of_mem_splitFrom List.not_mem_nil cut

theorem pathNames_append_slash (base path : String) :
    pathNames (base ++ "/" ++ path) = pathNames base ++ pathNames path := by
  have whole : (base ++ "/" ++ path).toList = base.toList ++ '/' :: path.toList := by simp
  rw [pathNames, whole, splitOn, splitFrom_append_slash, List.map_append]
  rfl

end Names

/-! ## Following names -/

namespace FileTree

variable {tree : FileTree} {place location : Location}

theorem placeOfNames_append (place : Location) (names others : List String) :
    placeOfNames place (names ++ others) = placeOfNames (placeOfNames place names) others := by
  induction names generalizing place with
  | nil => rfl
  | cons name rest ih =>
    simp only [List.cons_append, placeOfNames]
    split_ifs <;> apply ih

/-- **Following only resolves names.**  A location that names lead to is the one that they
stand for, whatever is in the tree. -/
theorem follow_eq {names : List String} (followed : tree.follow place names = .ok location) :
    location = placeOfNames place names := by
  induction names generalizing place with
  | nil => exact (Except.ok.inj followed).symm
  | cons name rest ih =>
    rw [follow] at followed
    split at followed
    · cases followed
    · cases followed
    · rw [placeOfNames]
      split_ifs at followed ⊢
      · exact ih followed
      · exact ih followed
      · exact ih followed

/-- A location is the one that its path stands for. -/
theorem locate_eq {start : Location} {path : String}
    (located : tree.locate start path = .ok location) : location = placeOf start path := by
  by_cases empty : path = ""
  · simp [locate, empty] at located
  · by_cases long : maxPathSize < path.utf8ByteSize
    · simp [locate, empty, long] at located
    · rw [locate, if_neg empty, if_neg long] at located
      exact follow_eq located

end FileTree

/-! ## Canonical locations -/

/-- **A canonical location** has nothing in it that is to be resolved: each of its names
can be that of an entry in a directory. -/
def Location.Canonical (location : Location) : Prop :=
  ∀ name ∈ location, name ≠ "" ∧ name ≠ "." ∧ name ≠ ".." ∧ '/' ∉ name.toList

instance (location : Location) : Decidable location.Canonical :=
  inferInstanceAs (Decidable (∀ name ∈ location, _))

theorem Location.Canonical.placeOfNames {place : Location} (canonical : place.Canonical)
    {names : List String} (plain : ∀ name ∈ names, '/' ∉ name.toList) :
    (FileTree.placeOfNames place names).Canonical := by
  induction names generalizing place with
  | nil => exact canonical
  | cons name rest ih =>
    obtain ⟨first, others⟩ := List.forall_mem_cons.1 plain
    rw [FileTree.placeOfNames]
    split_ifs with here up
    · exact ih canonical others
    · exact ih (fun name mem => canonical name (List.dropLast_subset _ mem)) others
    · simp only [Bool.or_eq_true, decide_eq_true_eq, not_or] at here
      refine ih (List.forall_mem_append.2 ⟨canonical, ?_⟩) others
      exact List.forall_mem_singleton.2 ⟨here.1, here.2, up, first⟩

/-- The place of a path is canonical if the one it starts from is. -/
theorem Location.Canonical.placeOf {place : Location} (canonical : place.Canonical)
    (path : String) : (FileTree.placeOf place path).Canonical := by
  have plain : ∀ name ∈ pathNames path, '/' ∉ name.toList :=
    fun _ => slash_notMem_of_mem_pathNames
  rw [FileTree.placeOf]
  split
  · exact Location.Canonical.placeOfNames (List.forall_mem_nil _) plain
  · exact canonical.placeOfNames plain

/-! ## Joined paths -/

section Joined

variable {base path : String}

/-- What is joined behind a path does not change where it starts from. -/
theorem isAbsolutePath_append (nonempty : base ≠ "") :
    isAbsolutePath (base ++ path) = isAbsolutePath base := by
  obtain ⟨c, rest, cut⟩ := List.exists_cons_of_ne_nil (mt String.toList_eq_nil_iff.1 nonempty)
  simp only [isAbsolutePath, String.toList_append, cut, List.cons_append, Text.startsWith,
    Text.after?]
  split_ifs <;> rfl

/-- The names of a joined path are those of its parts, perhaps with an empty one less. -/
theorem placeOfNames_joinPaths (place : Location) (nonempty : base ≠ "")
    (relative : isAbsolutePath path = false) :
    FileTree.placeOfNames place (pathNames (joinPaths base path))
      = FileTree.placeOfNames (FileTree.placeOfNames place (pathNames base)) (pathNames path) := by
  rw [joinPaths, if_neg (by simp [relative, nonempty]), ← FileTree.placeOfNames_append]
  split_ifs with closed
  · obtain ⟨rest, reversed⟩ := Text.startsWith_iff.1 closed
    have cut : base = String.ofList rest.reverse ++ "/" := by
      apply String.toList_inj.1
      simpa using (congrArg List.reverse reversed).symm
    have empty : pathNames "" = [""] := rfl
    have names : pathNames base = pathNames (String.ofList rest.reverse) ++ [""] := by
      rw [cut, ← empty, ← pathNames_append_slash, String.append_empty]
    rw [names, cut, pathNames_append_slash, List.append_assoc]
    simp only [FileTree.placeOfNames_append]
    rfl
  · rw [pathNames_append_slash]

/-- **A joined path** stands for the place of the second path, followed from that of the
first. -/
theorem placeOf_joinPaths (start : Location) (base path : String) :
    FileTree.placeOf start (joinPaths base path)
      = FileTree.placeOf (FileTree.placeOf start base) path := by
  by_cases absolute : isAbsolutePath path = true
  · simp [joinPaths, FileTree.placeOf, absolute]
  · have relative : isAbsolutePath path = false := by simpa using absolute
    by_cases empty : base = ""
    · have nowhere : FileTree.placeOf start "" = start := rfl
      simp [empty, nowhere, joinPaths]
    · have same : isAbsolutePath (joinPaths base path) = isAbsolutePath base := by
        rw [joinPaths, if_neg (by simp [relative, empty])]
        split_ifs
        · exact isAbsolutePath_append empty
        · rw [String.append_assoc, isAbsolutePath_append empty]
      simp [FileTree.placeOf, same, placeOfNames_joinPaths _ empty relative, relative]

end Joined

/-! ## Paths that stay below a place -/

/-- Whether names lead above the place that they start from, when `depth` names have led
down from it before. -/
def leadsAbove : (depth : Nat) → List String → Bool
  | _, [] => false
  | depth, name :: rest =>
    if name = "" || name = "." then leadsAbove depth rest
    else if name = ".." then
      match depth with
      | 0 => true
      | depth + 1 => leadsAbove depth rest
    else leadsAbove (depth + 1) rest

/-- **Names that do not lead above a place** end below it. -/
theorem prefix_placeOfNames {place below : Location} {names : List String}
    (stays : leadsAbove below.length names = false) :
    place <+: FileTree.placeOfNames (place ++ below) names := by
  induction names generalizing below with
  | nil => exact List.prefix_append place below
  | cons name rest ih =>
    rw [FileTree.placeOfNames]
    split_ifs with here up
    · rw [leadsAbove.eq_def] at stays
      simp only [here, if_true] at stays
      exact ih stays
    · subst up
      rcases List.eq_nil_or_concat below with rfl | ⟨init, last, rfl⟩
      · cases stays
      · rw [List.concat_eq_append, List.length_append, List.length_singleton] at stays
        rw [List.concat_eq_append, ← List.append_assoc, List.dropLast_concat]
        exact ih stays
    · rw [leadsAbove.eq_def] at stays
      simp only [here, up, if_false] at stays
      rw [List.append_assoc]
      refine ih ?_
      rw [List.length_append, List.length_singleton]
      exact stays

/-! ## Views in a directory -/

namespace ViewSource

/-- A key is the location of a file that the joined path leads to. -/
theorem locate_of_resolve {tree : FileTree} {start : Location} {root path key : String}
    (resolved : (files tree start root).resolve path = .ok key) :
    ∃ location content, tree.locate start (joinPaths root path) = .ok location
      ∧ tree.at? location = some (.file content) ∧ key = location.path := by
  rw [resolve] at resolved
  split at resolved
  · rename_i location located
    unfold FileTree.locateFile? at located
    split at located
    · cases located
    · rename_i reached followed
      split at located
      · rename_i content there
        cases located
        exact ⟨_, content, followed, there, (Except.ok.inj resolved).symm⟩
      · cases located
  · cases resolved

/-- **The key of a file** is the place that its path stands for, written out from the place
of the root: the canonical path of a file that is there.  So the key is below the root if
the path does not start from the root of the tree and never leads above the place it starts
from.  In any other case it is where the path leads. -/
theorem resolve_placeOf {tree : FileTree} {start : Location} {root path key : String}
    (working : start.Canonical) (resolved : (files tree start root).resolve path = .ok key) :
    let place := FileTree.placeOf start root
    let found := FileTree.placeOf place path
    (∀ located, tree.locate start root = .ok located → located = place)
      ∧ key = found.path ∧ found.Canonical ∧ (∃ content, tree.at? found = some (.file content))
      ∧ (isAbsolutePath path = false → leadsAbove 0 (pathNames path) = false →
        place <+: found) := by
  intro place found
  refine ⟨fun located => FileTree.locate_eq, ?_⟩
  obtain ⟨location, content, located, there, rfl⟩ := locate_of_resolve resolved
  have same : location = found := by
    rw [FileTree.locate_eq located, placeOf_joinPaths]
  subst same
  refine ⟨rfl, (working.placeOf root).placeOf path, ⟨content, there⟩, fun relative stays => ?_⟩
  have followed : found = FileTree.placeOfNames (place ++ []) (pathNames path) := by
    simp [found, FileTree.placeOf, relative]
  rw [followed]
  exact prefix_placeOfNames stays

/-- A path that goes down and up again stays in the directory of views. -/
theorem resolve_placeOf_parts :
    let tree : FileTree :=
      .directory
        [("views", .directory [("parts", .directory []), ("a.html", .file .empty)]),
          ("secret.txt", .file .empty)]
    Location.Canonical [] ∧ (files tree [] "views").resolve "parts/../a.html" = .ok "/views/a.html"
      ∧ "/views/a.html" = (FileTree.placeOf ["views"] "parts/../a.html").path
      ∧ ["views"] <+: FileTree.placeOf ["views"] "parts/../a.html" := by
  intro tree
  have working : Location.Canonical [] := List.forall_mem_nil _
  have resolved : (files tree [] "views").resolve "parts/../a.html" = .ok "/views/a.html" := by
    rfl
  obtain ⟨-, key, -, -, below⟩ := resolve_placeOf working resolved
  exact ⟨working, resolved, key, below (by decide) (by decide)⟩

/-- **Views outside their directory.**  A path that leads above the root, and one that starts
from the root of the tree, are those of a file next to the directory of views. -/
theorem resolve_outside :
    let tree : FileTree :=
      .directory [("views", .directory [("a.html", .file .empty)]), ("secret.txt", .file .empty)]
    tree.locate [] "views" = .ok ["views"]
      ∧ (files tree [] "views").resolve "../secret.txt" = .ok (Location.path ["secret.txt"])
      ∧ (files tree [] "views").resolve "/secret.txt" = .ok (Location.path ["secret.txt"])
      ∧ ¬ ["views"] <+: ["secret.txt"] := by
  exact ⟨rfl, rfl, rfl, by decide⟩

end ViewSource

end ViewTemplate
