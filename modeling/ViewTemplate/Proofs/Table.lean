import Mathlib.Data.List.Nodup
import Mathlib.Data.List.Perm.Subperm
import ViewTemplate.Table

/-!
# Tables as finite maps

A table keeps the order of its names, but what is found in it does not depend on that
order as long as its names are distinct: an entry is found under its name wherever it
stands.  So two tables with the same entries in any order are the same map
(`Table.get?_perm`), and of two tables of one length the one knows all names of the
other only if the other knows all of its names (`Table.names_perm`).
-/

namespace ViewTemplate.Table

variable {α β : Type} {table other : Table α}

/-! ## Entries that are set -/

/-- Of two entries set under one name the second counts. -/
theorem set_set (table : Table α) (name : String) (first second : α) :
    (table.set name first).set name second = table.set name second := by
  induction table with
  | nil => simp [set]
  | cons head rest ih =>
    obtain ⟨key, old⟩ := head
    by_cases same : key = name
    · simp [set, same]
    · simp [set, same, ih]

/-- A name that has an entry keeps its place, so setting another one before or after makes
no difference. -/
theorem set_comm {name other : String} (known : name ∈ table.names)
    (unlike : name ≠ other) (first second : α) :
    (table.set other second).set name first = (table.set name first).set other second := by
  induction table with
  | nil => cases known
  | cons head rest ih =>
    obtain ⟨key, old⟩ := head
    by_cases same : key = name
    · subst same
      simp [set, unlike]
    · have later : name ∈ Table.names rest :=
        (List.mem_cons.mp known).resolve_left fun here => same here.symm
      by_cases same' : key = other
      · subst same'
        simp [set, same]
      · simp [set, same, same', ih later]

/-! ## Distinct names -/

/-- Setting an entry keeps names apart. -/
theorem nodup_names_set (distinct : table.names.Nodup)
    (name : String) (entry : α) : (table.set name entry).names.Nodup := by
  rw [names_set]
  split
  · exact distinct
  · rename_i fresh
    rw [contains_iff_mem_names] at fresh
    refine List.nodup_append.mpr ⟨distinct, List.nodup_singleton name, fun old mem new same => ?_⟩
    rw [List.mem_singleton.mp same]
    exact fun clash => fresh (clash ▸ mem)

/-- An entry of a table with distinct names is the one that is found under its name. -/
theorem get?_of_mem (distinct : table.names.Nodup)
    {name : String} {entry : α} (member : (name, entry) ∈ table) :
    table.get? name = some entry := by
  induction table with
  | nil => cases member
  | cons head rest ih =>
    obtain ⟨key, first⟩ := head
    obtain ⟨fresh, distinct⟩ := List.nodup_cons.1 distinct
    rcases List.mem_cons.1 member with same | later
    · cases same
      exact if_pos rfl
    · have other : key ≠ name := fun same =>
        fresh (List.mem_map.2 ⟨(name, entry), later, same.symm⟩)
      rw [get?, if_neg other, ih distinct later]

/-- Where names are distinct, the entries are what is found. -/
theorem get?_eq_some_iff (distinct : table.names.Nodup) {name : String} {entry : α} :
    table.get? name = some entry ↔ (name, entry) ∈ table :=
  ⟨mem_of_get?, get?_of_mem distinct⟩

/-- **The order of entries does not matter** for what is found. -/
theorem get?_perm (distinct : table.names.Nodup) (order : table.Perm other) (name : String) :
    table.get? name = other.get? name := by
  have names : table.names.Perm other.names := order.map _
  have distinct' : other.names.Nodup := names.nodup_iff.1 distinct
  refine Option.ext fun entry => ?_
  rw [get?_eq_some_iff distinct, get?_eq_some_iff distinct', order.mem_iff]

/-- **A table that is no shorter than one that knows all its names** knows no other names than
that one. -/
theorem names_perm {larger : Table β} (distinct : table.names.Nodup)
    (known : table.names ⊆ larger.names) (few : larger.length ≤ table.length) :
    table.names.Perm larger.names := by
  refine (List.subperm_of_subset distinct known).perm_of_length_le ?_
  rwa [names, names, List.length_map, List.length_map]

end ViewTemplate.Table
