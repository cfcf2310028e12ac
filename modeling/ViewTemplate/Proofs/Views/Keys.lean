import ViewTemplate.Views.Source

/-!
# Keys of views

The keys that paths can lead to, listed.

Paths that differ may lead to one view, and there is no end of paths; but every key
that a path leads to is the name of an entry in memory, or else the location of a
file.  So a render that applies no key twice applies no more layouts than
`ViewSource.viewCount`, which is what bounds it.

## Main Definitions

* `FileTree.files` — the locations of the files of a tree
* `ViewSource.keys` — the keys of all views
-/

namespace ViewTemplate

namespace FileTree

/-- The locations of the files of a tree. -/
def files : FileTree → List Location
  | file _ => [[]]
  | directory entries => filesOfEntries entries
where
  /-- The locations of the files among entries. -/
  filesOfEntries : List (String × FileTree) → List Location
    | [] => []
    | (name, entry) :: rest => (files entry).map (name :: ·) ++ filesOfEntries rest

mutual

theorem length_files (tree : FileTree) : tree.files.length = tree.fileCount := by
  cases tree with
  | file content => rfl
  | directory entries => exact length_filesOfEntries entries

theorem length_filesOfEntries (entries : List (String × FileTree)) :
    (files.filesOfEntries entries).length = fileCount.countEntries entries := by
  cases entries with
  | nil => rfl
  | cons entry rest =>
    rw [files.filesOfEntries, List.length_append, List.length_map, length_files entry.2,
      length_filesOfEntries rest, fileCount.countEntries]

end

/-- The files of an entry are among those of all entries. -/
theorem mem_filesOfEntries {entries : List (String × FileTree)} {name : String}
    {entry : FileTree} (mem : (name, entry) ∈ entries) {location : Location}
    (h : location ∈ entry.files) : name :: location ∈ files.filesOfEntries entries := by
  induction entries with
  | nil => cases mem
  | cons head rest ih =>
    rw [files.filesOfEntries]
    cases mem with
    | head => exact List.mem_append_left _ (List.mem_map_of_mem h)
    | tail _ mem => exact List.mem_append_right _ (ih mem)

/-- A location at which there is a file is listed. -/
theorem mem_files {tree : FileTree} {location : Location} {content : ByteArray}
    (found : tree.at? location = some (file content)) : location ∈ tree.files := by
  induction location generalizing tree with
  | nil =>
    cases tree with
    | file content => exact List.mem_singleton.mpr rfl
    | directory entries => cases found
  | cons name rest ih =>
    cases tree with
    | file content => cases found
    | directory entries =>
      rw [at?] at found
      cases entry : Table.get? entries name with
      | none =>
        rw [entry] at found
        cases found
      | some inner =>
        rw [entry] at found
        exact mem_filesOfEntries (Table.mem_of_get? entry) (ih found)

end FileTree

namespace ViewSource

/-- **The keys of all views.** -/
def keys : ViewSource → List String
  | memory views => views.names
  | files tree _ _ => tree.files.map Location.path

/-- There are as many keys as views at most. -/
theorem length_keys (source : ViewSource) : source.keys.length = source.viewCount := by
  cases source with
  | memory views => exact List.length_map _
  | files tree start root =>
    rw [keys, List.length_map, FileTree.length_files]
    rfl

/-- **Every key that a path leads to is listed.** -/
theorem mem_keys_of_resolve {source : ViewSource} {path key : String}
    (resolved : source.resolve path = .ok key) : key ∈ source.keys := by
  cases source with
  | memory views =>
    rw [resolve] at resolved
    split at resolved
    · rename_i found
      cases resolved
      obtain ⟨text, entry⟩ := Option.isSome_iff_exists.mp found
      exact List.mem_map.mpr ⟨_, Table.mem_of_get? entry, rfl⟩
    · cases resolved
  | files tree start root =>
    rw [resolve] at resolved
    split at resolved
    · rename_i location located
      cases resolved
      unfold FileTree.locateFile? at located
      split at located
      · cases located
      · split at located
        · rename_i found
          cases located
          exact List.mem_map_of_mem (FileTree.mem_files found)
        · cases located
    · cases resolved

end ViewSource

end ViewTemplate
