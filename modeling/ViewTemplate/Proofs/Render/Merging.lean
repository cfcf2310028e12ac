import ViewTemplate.Proofs.Table
import ViewTemplate.Render.Target

/-!
# Merging targets

What it does to write the slots of one target to another.

Slots are filled one after the other, each behind the text that it has.  As long as every
slot stands in a table once, it makes no difference whether slots are filled directly or by
way of another target (`Target.fill_slots_fill`), and so merging is associative
(`Target.merge_assoc`).

## Main Definitions

* `Target.fill` — writes texts to slots, in order
-/

namespace ViewTemplate

/-! ## Slots that are filled -/

namespace Target

/-- Writes texts to slots, in order. -/
def fill (target : Target) (slots : Table String) : Target :=
  slots.foldl (fun target (name, text) => target.appendTo name text) target

variable {target : Target}

/-- Two texts written to one slot are one. -/
theorem appendTo_appendTo (target : Target) (name first second : String) :
    (target.appendTo name first).appendTo name second = target.appendTo name (first ++ second) := by
  have text : (target.appendTo name first).slot name = target.slot name ++ first := by
    rw [slot_appendTo, if_pos rfl]
  rw [appendTo, text]
  simp only [appendTo, Table.set_set, String.append_assoc]

/-- A slot that has text can be written to before or after another one. -/
theorem appendTo_comm {name other : String} (known : name ∈ Table.names target.slots)
    (unlike : name ≠ other) (first second : String) :
    (target.appendTo other second).appendTo name first =
      (target.appendTo name first).appendTo other second := by
  have text : (target.appendTo other second).slot name = target.slot name := by
    rw [slot_appendTo, if_neg unlike.symm]
  have text' : (target.appendTo name first).slot other = target.slot other := by
    rw [slot_appendTo, if_neg unlike]
  rw [appendTo, appendTo.eq_1 (target.appendTo name first), text, text']
  simp only [appendTo, Table.set_comm known unlike]

/-- A slot that was written to has text. -/
theorem mem_names_appendTo (target : Target) (name text : String) :
    name ∈ Table.names (target.appendTo name text).slots := by
  rw [appendTo, Table.names_set]
  split
  · rename_i known
    exact Table.contains_iff_mem_names.mp known
  · exact List.mem_append_right _ (List.mem_singleton.mpr rfl)

/-- What is written to other slots in between makes no difference to a slot. -/
theorem fill_appendTo {slots : Table String} {name : String} (fresh : name ∉ slots.names)
    (first second : String) (target : Target) :
    (target.appendTo name (first ++ second)).fill slots =
      ((target.appendTo name first).fill slots).appendTo name second := by
  rw [← appendTo_appendTo]
  have known := target.mem_names_appendTo name first
  generalize target.appendTo name first = target at known ⊢
  induction slots generalizing target with
  | nil => rfl
  | cons entry rest ih =>
    obtain ⟨other, text⟩ := entry
    obtain ⟨unlike, fresh⟩ := not_or.mp (List.mem_cons.not.mp fresh)
    have known' : name ∈ Table.names (target.appendTo other text).slots := by
      rw [appendTo, Table.names_set]
      split
      · exact known
      · exact List.mem_append_left _ known
    change ((target.appendTo name second).appendTo other text).fill rest =
      ((target.appendTo other text).fill rest).appendTo name second
    rw [← ih fresh _ known', appendTo_comm known unlike]

/-- Text that is added to an entry of a table of slots is written behind its other entries. -/
theorem fill_set {slots : Table String} (distinct : slots.names.Nodup) (name text : String)
    (target : Target) :
    target.fill (slots.set name ((slots.get? name).getD "" ++ text)) =
      (target.fill slots).appendTo name text := by
  induction slots generalizing target with
  | nil =>
    change target.appendTo name ("" ++ text) = _
    rw [String.empty_append]
    rfl
  | cons entry rest ih =>
    obtain ⟨key, old⟩ := entry
    obtain ⟨fresh, distinct⟩ := List.nodup_cons.mp distinct
    by_cases same : key = name
    · subst same
      simpa [Table.set, Table.get?, fill] using fill_appendTo fresh old text target
    · simpa [Table.set, Table.get?, same, fill] using ih distinct (target.appendTo key old)

/-- Slots that are written to one target, and from there to another, could have been
written to the other at once. -/
theorem fill_slots_fill {written : Target} (distinct : (Table.names written.slots).Nodup)
    (slots : Table String) (target : Target) :
    target.fill (written.fill slots).slots = (target.fill written.slots).fill slots := by
  induction slots generalizing written with
  | nil => rfl
  | cons entry rest ih =>
    obtain ⟨name, text⟩ := entry
    have distinct' : (Table.names (written.appendTo name text).slots).Nodup :=
      Table.nodup_names_set distinct name _
    change target.fill ((written.appendTo name text).fill rest).slots =
      ((target.fill written.slots).appendTo name text).fill rest
    rw [ih distinct']
    exact congrArg (·.fill rest) (fill_set distinct name text target)

/-- Slots and default text are written independently. -/
theorem append_fill (target : Target) (slots : Table String) (text : String) :
    (target.append text).fill slots = (target.fill slots).append text := by
  induction slots generalizing target with
  | nil => rfl
  | cons entry rest ih => exact ih (target.appendTo entry.1 entry.2)

theorem fill_default (target : Target) (slots : Table String) :
    (target.fill slots).default = target.default := by
  induction slots generalizing target with
  | nil => rfl
  | cons entry rest ih => exact ih (target.appendTo entry.1 entry.2)

theorem fill_layoutContent (target : Target) (slots : Table String) :
    (target.fill slots).layoutContent = target.layoutContent := by
  induction slots generalizing target with
  | nil => rfl
  | cons entry rest ih => exact ih (target.appendTo entry.1 entry.2)

/-- Writing to slots keeps them apart. -/
theorem fill_distinct (distinct : (Table.names target.slots).Nodup) (slots : Table String) :
    (Table.names (target.fill slots).slots).Nodup := by
  induction slots generalizing target with
  | nil => exact distinct
  | cons entry rest ih => exact ih (Table.nodup_names_set distinct entry.1 _)

/-- Filling slots writes to each what its entry holds. -/
theorem slot_fill {slots : Table String} (distinct : slots.names.Nodup) (target : Target)
    (name : String) :
    (target.fill slots).slot name = target.slot name ++ (slots.get? name).getD "" := by
  induction slots generalizing target with
  | nil => simp [fill]
  | cons entry rest ih =>
    obtain ⟨key, text⟩ := entry
    obtain ⟨fresh, distinct⟩ := List.nodup_cons.mp distinct
    change ((target.appendTo key text).fill rest).slot name = _
    rw [ih distinct, slot_appendTo, Table.get?]
    by_cases same : key = name
    · subst same
      have later : Table.get? rest key = none := Table.get?_eq_none fresh
      simp [later]
    · simp [same]

/-! ## Merging -/

/-- What ends in a slot is one more entry behind those that it captured itself. -/
theorem merge_some (target ended : Target) (slot : String) :
    target.merge ended (some slot) = target.fill (ended.slots ++ [(slot, ended.default)]) := by
  rw [fill, List.foldl_append]
  rfl

theorem merge_none (target ended : Target) :
    target.merge ended none = (target.fill ended.slots).append ended.default := rfl

/-- **Merging is associative**: a capture that ends in a target which is merged into an old
one could have ended in the old one. -/
theorem merge_assoc (old : Target) {written : Target}
    (distinct : (Table.names written.slots).Nodup) (ended : Target) (slot : String) :
    (old.merge written none).merge ended (some slot) =
      old.merge (written.merge ended (some slot)) none := by
  simp only [merge_some, merge_none, append_fill, fill_default, fill_slots_fill distinct]

end Target

end ViewTemplate
