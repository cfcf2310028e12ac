/-!
# Ordered tables

Entries under distinct names, in the order in which the names first came in.

## Main Definitions

* `Table` — names with entries
* `Table.get?`, `Table.contains` — looking a name up
* `Table.set` — the entry of a name, new names at the end
* `Table.update?` — a new entry for a name that has one
* `Table.merge` — the entries of one table set in another

## Design Notes

A table is its list of entries, so its order is part of its value. Every operation keeps names
distinct, and looking up takes the first match.
-/

namespace ViewTemplate

/-- Entries of type `α` under names, in order. -/
abbrev Table (α : Type) := List (String × α)

namespace Table

variable {α : Type}

/-- The entry of a name. -/
def get? : Table α → String → Option α
  | [], _ => none
  | (key, entry) :: rest, name => if key = name then some entry else get? rest name

/-- Whether a name has an entry. -/
def contains (table : Table α) (name : String) : Bool :=
  (table.get? name).isSome

/-- The names of a table, in order. -/
def names (table : Table α) : List String :=
  table.map (·.1)

/-- Gives a name an entry. A name that has one keeps its place; any other goes to the end. -/
def set : Table α → String → α → Table α
  | [], name, entry => [(name, entry)]
  | (key, old) :: rest, name, entry =>
    if key = name then (key, entry) :: rest else (key, old) :: set rest name entry

/-- Gives a name that has an entry another one. -/
def update? (table : Table α) (name : String) (entry : α) : Option (Table α) :=
  if table.contains name then some (table.set name entry) else none

/-- Sets every entry of `extra` in `table`, in order. -/
def merge (table extra : Table α) : Table α :=
  extra.foldl (fun table (name, entry) => table.set name entry) table

/-- The table of a list of entries: a repeated name keeps its first place and its last entry. -/
def ofEntries (entries : List (String × α)) : Table α :=
  merge [] entries

@[simp]
theorem get?_nil (name : String) : get? ([] : Table α) name = none := rfl

/-- What is set is found, and nothing else changes. -/
theorem get?_set (table : Table α) (name other : String) (entry : α) :
    (table.set name entry).get? other = if name = other then some entry else table.get? other := by
  induction table with
  | nil => simp [set, get?]
  | cons head rest ih =>
    obtain ⟨key, old⟩ := head
    by_cases h : key = name
    · subst h
      by_cases h' : key = other <;> simp [set, get?, h']
    · by_cases h' : key = other
      · subst h'
        have h' : ¬name = key := fun e => h e.symm
        simp [set, get?, h, h']
      · simp [set, get?, h, h', ih]

/-- Setting an entry leaves the names and their order alone, but for a new name at the end. -/
theorem names_set (table : Table α) (name : String) (entry : α) :
    (table.set name entry).names
      = if table.contains name then table.names else table.names ++ [name] := by
  induction table with
  | nil => simp [set, names, contains]
  | cons head rest ih =>
    obtain ⟨key, old⟩ := head
    by_cases h : key = name
    · simp [set, names, contains, get?, h]
    · have ih' : (set rest name entry).names
          = if contains rest name then names rest else names rest ++ [name] := ih
      simp only [names, contains] at ih'
      by_cases hc : (get? rest name).isSome = true
      · simp [set, names, contains, get?, h, hc, ih']
      · simp [set, names, contains, get?, h, hc, ih']

/-- What is updated is set, and it was there. -/
theorem update?_eq_some_iff {table after : Table α} {name : String} {entry : α} :
    table.update? name entry = some after ↔
      table.contains name = true ∧ table.set name entry = after := by
  unfold update?
  split <;> simp_all

/-- A new value for a name of a table leaves its names alone. -/
theorem names_update? {table after : Table α} {name : String} {entry : α}
    (h : table.update? name entry = some after) : after.names = table.names := by
  obtain ⟨known, rfl⟩ := update?_eq_some_iff.mp h
  rw [names_set, if_pos known]

/-- A new value for a name leaves the values of the others alone. -/
theorem get?_update?_of_ne {table after : Table α} {name other : String} {entry : α}
    (h : table.update? name entry = some after) (distinct : name ≠ other) :
    after.get? other = table.get? other := by
  obtain ⟨-, rfl⟩ := update?_eq_some_iff.mp h
  rw [get?_set, if_neg distinct]

/-- What is found under a name is an entry. -/
theorem mem_of_get? {table : Table α} {name : String} {entry : α}
    (h : table.get? name = some entry) : (name, entry) ∈ table := by
  induction table with
  | nil => simp at h
  | cons head rest ih =>
    obtain ⟨key, old⟩ := head
    by_cases same : key = name
    · subst same
      simp only [get?, if_true, Option.some.injEq] at h
      subst h
      exact List.mem_cons_self
    · simp only [get?, same, if_false] at h
      exact List.mem_cons_of_mem _ (ih h)

/-- A name has an entry when it is one of the names. -/
theorem contains_iff_mem_names {table : Table α} {name : String} :
    table.contains name = true ↔ name ∈ table.names := by
  induction table with
  | nil => simp [contains, names]
  | cons head rest ih =>
    obtain ⟨key, entry⟩ := head
    rw [names, List.map_cons, List.mem_cons, ← names, ← ih, contains, get?]
    by_cases same : key = name
    · simp [same]
    · simp [same, contains, Ne.symm same]

/-- A name without an entry is none of the names. -/
theorem get?_eq_none {table : Table α} {name : String} (unknown : name ∉ table.names) :
    table.get? name = none := by
  rw [← contains_iff_mem_names, contains, Bool.not_eq_true, Option.isSome_eq_false_iff,
    Option.isNone_iff_eq_none] at unknown
  exact unknown

/-- Setting an entry brings in no other. -/
theorem mem_set {table : Table α} {name : String} {entry : α}
    {other : String × α} (h : other ∈ table.set name entry) :
    other ∈ table ∨ other.2 = entry := by
  induction table with
  | nil =>
    simp only [set, List.mem_singleton] at h
    exact .inr (h ▸ rfl)
  | cons head rest ih =>
    obtain ⟨key, old⟩ := head
    by_cases same : key = name
    · simp only [set, same, if_true, List.mem_cons] at h
      rcases h with rfl | later
      · exact .inr rfl
      · exact .inl (List.mem_cons_of_mem _ later)
    · simp only [set, same, if_false, List.mem_cons] at h
      rcases h with rfl | later
      · exact .inl List.mem_cons_self
      · exact (ih later).imp (List.mem_cons_of_mem _) id

end Table

end ViewTemplate
