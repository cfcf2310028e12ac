import Mathlib.Data.List.Forall2
import ViewTemplate.Value.Equality

/-!
# Values that differ in their print blocks

A print block in a value is a place in a table, so a value means nothing without the table
of the render that it belongs to.  Values of two renders are alike when they differ in
nothing but these places, and each place in the one is matched with the place in the other.

Nothing that can be done with a value depends on the places: texts, numbers and truth are
the same for values that are alike (`Like.text`, `Like.toNumber`, `Like.isTruthy`).  The one
exception is comparing, which tells places apart, and so gives the same as long as the
matching tells the same places apart (`Like.strictEquals`).

## Main Definitions

* `Table.Like` — tables with the same names and related entries
* `Value.blocks` — the print blocks in a value
* `Value.relabel` — a value with other print blocks
* `Value.Like` — values that are alike
* `Value.KeptApart` — a matching tells the print blocks of two values apart
-/

namespace ViewTemplate

/-! ## Tables -/

/-- **Tables with the same names** in the same order, whose entries are related. -/
inductive Table.Like {α β : Type} (related : α → β → Prop) : Table α → Table β → Prop where
  | nil : Like related [] []
  | cons {name : String} {entry : α} {entry' : β} {rest : Table α} {rest' : Table β}
      (first : related entry entry') (others : Like related rest rest') :
      Like related ((name, entry) :: rest) ((name, entry') :: rest')

namespace Table.Like

variable {α β : Type} {related wider : α → β → Prop} {table extra : Table α}
  {table' extra' : Table β} {entry : α} {entry' : β}

theorem mono (sub : ∀ {a b}, related a b → wider a b) (like : Table.Like related table table') :
    Table.Like wider table table' := by
  induction like with
  | nil => exact .nil
  | cons first _ ih => exact .cons (sub first) ih

theorem length_eq (like : Table.Like related table table') : table.length = table'.length := by
  induction like with
  | nil => rfl
  | cons _ _ ih => exact congrArg (· + 1) ih

theorem names_eq (like : Table.Like related table table') : table.names = table'.names := by
  induction like with
  | nil => rfl
  | cons _ _ ih => exact congrArg (_ :: ·) ih

theorem get? (like : Table.Like related table table') (name : String) :
    Option.Rel related (table.get? name) (table'.get? name) := by
  induction like with
  | nil => exact .none
  | @cons key _ _ _ _ first _ ih =>
    unfold Table.get?
    by_cases same : key = name
    · rw [if_pos same, if_pos same]
      exact .some first
    · rw [if_neg same, if_neg same]
      exact ih

theorem set (like : Table.Like related table table') (name : String)
    (entries : related entry entry') :
    Table.Like related (table.set name entry) (table'.set name entry') := by
  induction like with
  | nil => exact .cons entries .nil
  | @cons key _ _ _ _ first others ih =>
    unfold Table.set
    by_cases same : key = name
    · rw [if_pos same, if_pos same]
      exact .cons entries others
    · rw [if_neg same, if_neg same]
      exact .cons first ih

theorem update? (like : Table.Like related table table') (name : String)
    (entries : related entry entry') :
    Option.Rel (Table.Like related) (table.update? name entry) (table'.update? name entry') := by
  unfold Table.update? Table.contains
  have found := like.get? name
  generalize table.get? name = old at found ⊢
  generalize table'.get? name = old' at found ⊢
  cases found with
  | none => exact .none
  | some _ => exact .some (like.set name entries)

theorem merge (like : Table.Like related table table') (more : Table.Like related extra extra') :
    Table.Like related (Table.merge table extra) (Table.merge table' extra') := by
  unfold Table.merge
  induction more generalizing table table' with
  | nil => exact like
  | cons first _ ih => exact ih (like.set _ first)

theorem ofEntries (like : Table.Like related table table') :
    Table.Like related (Table.ofEntries table) (Table.ofEntries table') :=
  merge .nil like

/-- Where only equal entries are related, so are only equal tables. -/
theorem eq {related : α → α → Prop} (equal : ∀ {a b}, related a b → a = b)
    {table table' : Table α} (like : Table.Like related table table') : table = table' := by
  induction like with
  | nil => rfl
  | cons first _ ih => rw [equal first, ih]

end Table.Like

theorem exists_mem_of_forall₂ {α β : Type} {related : α → β → Prop} {items : List α}
    {items' : List β} (like : List.Forall₂ related items items') :
    ∀ item ∈ items, ∃ item', related item item' := by
  induction like with
  | nil => exact List.forall_mem_nil _
  | cons first _ ih => exact List.forall_mem_cons.mpr ⟨⟨_, first⟩, ih⟩

namespace Value

/-! ## Print blocks in values -/

/-- **The print blocks in a value**, however deep they stand in arrays and objects. -/
def blocks : Value → List Nat
  | array items => itemBlocks items
  | object fields => fieldBlocks fields
  | function (.block index) => [index]
  | _ => []
where
  /-- The print blocks in the items of an array. -/
  itemBlocks : List Value → List Nat
    | [] => []
    | item :: rest => blocks item ++ itemBlocks rest
  /-- The print blocks in the fields of an object. -/
  fieldBlocks : List (String × Value) → List Nat
    | [] => []
    | (_, value) :: rest => blocks value ++ fieldBlocks rest

/-- **A value with other print blocks** in the same places. -/
def relabel (place : Nat → Nat) : Value → Value
  | array items => array (relabelItems items)
  | object fields => object (relabelFields fields)
  | function (.block index) => function (.block (place index))
  | other => other
where
  /-- Items with other print blocks. -/
  relabelItems : List Value → List Value
    | [] => []
    | item :: rest => relabel place item :: relabelItems rest
  /-- Fields with other print blocks. -/
  relabelFields : List (String × Value) → List (String × Value)
    | [] => []
    | (name, value) :: rest => (name, relabel place value) :: relabelFields rest

theorem itemBlocks_eq (items : List Value) : blocks.itemBlocks items = items.flatMap blocks := by
  induction items with
  | nil => rfl
  | cons item rest ih => rw [blocks.itemBlocks, ih, List.flatMap_cons]

theorem fieldBlocks_eq (fields : List (String × Value)) :
    blocks.fieldBlocks fields = fields.flatMap fun field => field.2.blocks := by
  induction fields with
  | nil => rfl
  | cons field rest ih => rw [blocks.fieldBlocks, ih, List.flatMap_cons]

theorem mem_blocks_array {items : List Value} {index : Nat} :
    index ∈ (array items).blocks ↔ ∃ item ∈ items, index ∈ item.blocks := by
  rw [blocks, itemBlocks_eq, List.mem_flatMap]

theorem mem_blocks_object {fields : List (String × Value)} {index : Nat} :
    index ∈ (object fields).blocks ↔ ∃ field ∈ fields, index ∈ field.2.blocks := by
  rw [blocks, fieldBlocks_eq, List.mem_flatMap]

theorem relabelItems_eq (place : Nat → Nat) (items : List Value) :
    relabel.relabelItems place items = items.map (relabel place) := by
  induction items with
  | nil => rfl
  | cons item rest ih => rw [relabel.relabelItems, ih, List.map_cons]

theorem itemTexts_eq (items : List Value) : text.itemTexts items = items.map text := by
  induction items with
  | nil => rfl
  | cons item rest ih => rw [text.itemTexts, ih, List.map_cons]

/-! ## Values that are alike -/

/-- **Values that differ in their print blocks only**, each of which is matched with the one
in its place. -/
inductive Like (matched : Nat → Nat → Prop) : Value → Value → Prop where
  | undefined : Like matched undefined undefined
  | null : Like matched null null
  | bool (value : Bool) : Like matched (bool value) (bool value)
  | number (value : Float) : Like matched (number value) (number value)
  | string (text : String) : Like matched (string text) (string text)
  | array {items items' : List Value} (like : List.Forall₂ (Like matched) items items') :
      Like matched (array items) (array items')
  | object {fields fields' : Table Value} (like : Table.Like (Like matched) fields fields') :
      Like matched (object fields) (object fields')
  | host (name : String) : Like matched (function (.host name)) (function (.host name))
  | block {index index' : Nat} (same : matched index index') :
      Like matched (function (.block index)) (function (.block index'))

/-- Neither a print block nor a value that holds others. -/
def Plain : Value → Prop
  | array _ | object _ | function (.block _) => False
  | _ => True

variable {matched wider : Nat → Nat → Prop} {value value' other other' : Value}

theorem Plain.like {value : Value} (plain : value.Plain) : Like matched value value := by
  cases value with
  | function callable =>
    cases callable with
    | block index => exact plain.elim
    | host name => exact .host name
  | array | object => exact plain.elim
  | _ => constructor

theorem Plain.blocks_eq_nil {value : Value} (plain : value.Plain) : value.blocks = [] := by
  cases value with
  | function callable =>
    cases callable with
    | block index => exact plain.elim
    | host name => rfl
  | array | object => exact plain.elim
  | _ => rfl

theorem Plain.relabel_eq {value : Value} (plain : value.Plain) (place : Nat → Nat) :
    value.relabel place = value := by
  cases value with
  | function callable =>
    cases callable with
    | block index => exact plain.elim
    | host name => rfl
  | array | object => exact plain.elim
  | _ => rfl

/-- **A relation that holds of arrays and objects when it holds of what they hold**, of
matched print blocks, and of all other values and themselves. -/
structure Closed (matched : Nat → Nat → Prop) (related : Value → Value → Prop) : Prop where
  plain : ∀ {value}, value.Plain → related value value
  array : ∀ {items items'}, List.Forall₂ related items items' →
    related (array items) (array items')
  object : ∀ {fields fields'}, Table.Like related fields fields' →
    related (object fields) (object fields')
  block : ∀ {index index'}, matched index index' →
    related (function (.block index)) (function (.block index'))

namespace Closed

variable {related : Value → Value → Prop}

mutual

/-- **Induction over values that are alike.** -/
theorem of_like (closed : Closed matched related) :
    (value : Value) → {value' : Value} → Like matched value value' → related value value'
  | .undefined, _, .undefined => closed.plain trivial
  | .null, _, .null => closed.plain trivial
  | .bool _, _, .bool _ => closed.plain trivial
  | .number _, _, .number _ => closed.plain trivial
  | .string _, _, .string _ => closed.plain trivial
  | .function (.host _), _, .host _ => closed.plain trivial
  | .function (.block _), _, .block same => closed.block same
  | .array items, _, .array like => closed.array (closed.of_items items like)
  | .object fields, _, .object like => closed.object (closed.of_fields fields like)

theorem of_items (closed : Closed matched related) :
    (items : List Value) → {items' : List Value} → List.Forall₂ (Like matched) items items' →
      List.Forall₂ related items items'
  | [], _, .nil => .nil
  | item :: rest, _, .cons first others =>
    .cons (closed.of_like item first) (closed.of_items rest others)

theorem of_fields (closed : Closed matched related) :
    (fields : Table Value) → {fields' : Table Value} → Table.Like (Like matched) fields fields' →
      Table.Like related fields fields'
  | [], _, .nil => .nil
  | (_, value) :: rest, _, .cons first others =>
    .cons (closed.of_like value first) (closed.of_fields rest others)

end

end Closed

/-- Values that are alike under a matching are alike under a wider one. -/
theorem Like.mono (sub : ∀ {index index'}, matched index index' → wider index index')
    (like : Like matched value value') : Like wider value value' :=
  Closed.of_like
    { plain := Plain.like, array := .array, object := .object, block := fun same => .block (sub same) }
    value like

/-- Every print block in a value is matched in a value that is like it. -/
theorem Like.blocks_matched (like : Like matched value value') :
    ∀ index ∈ value.blocks, ∃ index', matched index index' := by
  suffices closed : Closed matched fun value _ => ∀ index ∈ value.blocks,
      ∃ index', matched index index' from closed.of_like value like
  refine ⟨?_, ?_, ?_, ?_⟩
  · intro value plain
    rw [plain.blocks_eq_nil]
    exact List.forall_mem_nil _
  · intro items items' like index mem
    obtain ⟨item, here, inside⟩ := mem_blocks_array.mp mem
    obtain ⟨_, matched⟩ := exists_mem_of_forall₂ like item here
    exact matched index inside
  · intro fields fields' like index mem
    obtain ⟨field, here, inside⟩ := mem_blocks_object.mp mem
    induction like with
    | nil => cases here
    | cons first _ ih =>
      rcases List.mem_cons.mp here with rfl | here
      · exact first index inside
      · exact ih (mem_blocks_object.mpr ⟨field, here, inside⟩) here
  · intro index index' same other mem
    rw [List.mem_singleton.mp mem]
    exact ⟨index', same⟩

mutual

/-- A value is like itself when its print blocks are matched with themselves. -/
theorem Like.refl :
    (value : Value) → (∀ index ∈ value.blocks, matched index index) → Like matched value value
  | .undefined, _ => .undefined
  | .null, _ => .null
  | .bool _, _ => .bool _
  | .number _, _ => .number _
  | .string _, _ => .string _
  | .function (.host _), _ => .host _
  | .function (.block _), same => .block (same _ List.mem_cons_self)
  | .array items, same => .array (Like.items_refl items same)
  | .object fields, same => .object (Like.fields_refl fields same)

theorem Like.items_refl : (items : List Value) →
    (∀ index ∈ blocks.itemBlocks items, matched index index) →
      List.Forall₂ (Like matched) items items
  | [], _ => .nil
  | item :: rest, same =>
    .cons (Like.refl item fun index mem => same index (List.mem_append_left _ mem))
      (Like.items_refl rest fun index mem => same index (List.mem_append_right _ mem))

theorem Like.fields_refl : (fields : Table Value) →
    (∀ index ∈ blocks.fieldBlocks fields, matched index index) →
      Table.Like (Like matched) fields fields
  | [], _ => .nil
  | (_, value) :: rest, same =>
    .cons (Like.refl value fun index mem => same index (List.mem_append_left _ mem))
      (Like.fields_refl rest fun index mem => same index (List.mem_append_right _ mem))

end

/-- Where the matching is a function, a value that is like another is the other one with
that function applied to its print blocks. -/
theorem Like.eq_relabel {place : Nat → Nat}
    (places : ∀ {index index'}, matched index index' → index' = place index)
    (like : Like matched value value') : value' = value.relabel place := by
  suffices closed : Closed matched fun value value' => value' = value.relabel place from
    closed.of_like value like
  refine ⟨?_, ?_, ?_, ?_⟩
  · intro value plain
    exact (plain.relabel_eq place).symm
  · intro items items' like
    rw [relabel, relabelItems_eq, array.injEq]
    induction like with
    | nil => rfl
    | cons first _ ih => rw [first, ih, List.map_cons]
  · intro fields fields' like
    rw [relabel, object.injEq]
    induction like with
    | nil => rfl
    | cons first _ ih => rw [first, ih, relabel.relabelFields]
  · intro index index' same
    rw [places same]
    rfl

/-- A value with other print blocks is like the value when these are matched. -/
theorem like_relabel {place : Nat → Nat}
    (same : ∀ index ∈ value.blocks, matched index (place index)) :
    Like matched value (value.relabel place) := by
  -- The value is like itself under a matching that remembers which of its blocks are matched.
  have itself : Like (fun index index' => index = index' ∧ matched index (place index))
      value value :=
    .refl value fun index mem => ⟨rfl, same index mem⟩
  suffices closed : Closed _ fun value value' => Like matched value (value'.relabel place) from
    closed.of_like value itself
  refine ⟨?_, ?_, ?_, ?_⟩
  · intro value plain
    rw [plain.relabel_eq place]
    exact plain.like
  · intro items items' like
    rw [relabel, relabelItems_eq]
    exact .array (List.forall₂_map_right_iff.mpr like)
  · intro fields fields' like
    rw [relabel]
    refine .object ?_
    induction like with
    | nil => exact .nil
    | cons first _ ih => exact .cons first ih
  · rintro index _ ⟨rfl, same⟩
    exact .block same

/-- What changes no print block of a value does not change the value. -/
theorem relabel_eq_self {place : Nat → Nat} (same : ∀ index ∈ value.blocks, place index = index) :
    value.relabel place = value := by
  have itself : Like (fun index index' => index' = place index) value value :=
    .refl value fun index mem => (same index mem).symm
  exact (itself.eq_relabel id).symm

/-- Where print blocks are matched with themselves only, so are values. -/
theorem Like.eq (equal : ∀ {index index'}, matched index index' → index = index')
    (like : Like matched value value') : value = value' := by
  have relabelled : value' = value.relabel fun index => index :=
    like.eq_relabel fun same => (equal same).symm
  rw [relabelled, relabel_eq_self fun _ _ => rfl]

mutual

/-- Print blocks are relabelled one by one. -/
theorem blocks_relabel (place : Nat → Nat) :
    (value : Value) → (value.relabel place).blocks = value.blocks.map place
  | .undefined | .null | .bool _ | .number _ | .string _ | .function (.host _) => rfl
  | .function (.block _) => rfl
  | .array items => itemBlocks_relabel place items
  | .object fields => fieldBlocks_relabel place fields

theorem itemBlocks_relabel (place : Nat → Nat) : (items : List Value) →
    blocks.itemBlocks (relabel.relabelItems place items) = (blocks.itemBlocks items).map place
  | [] => rfl
  | item :: rest => by
    rw [relabel.relabelItems, blocks.itemBlocks, blocks.itemBlocks, List.map_append,
      blocks_relabel place item, itemBlocks_relabel place rest]

theorem fieldBlocks_relabel (place : Nat → Nat) : (fields : List (String × Value)) →
    blocks.fieldBlocks (relabel.relabelFields place fields) = (blocks.fieldBlocks fields).map place
  | [] => rfl
  | (_, value) :: rest => by
    rw [relabel.relabelFields, blocks.fieldBlocks, blocks.fieldBlocks, List.map_append,
      blocks_relabel place value, fieldBlocks_relabel place rest]

end

/-! ## What does not depend on print blocks -/

namespace Like

theorem isNullish (like : Like matched value value') : value.isNullish = value'.isNullish := by
  cases like <;> rfl

theorem isTruthy (like : Like matched value value') : value.isTruthy = value'.isTruthy := by
  cases like <;> rfl

theorem typeName (like : Like matched value value') : value.typeName = value'.typeName := by
  cases like <;> rfl

theorem text (like : Like matched value value') : value.text = value'.text := by
  suffices closed : Closed matched fun value value' => value.text = value'.text from
    closed.of_like value like
  refine ⟨?_, ?_, ?_, ?_⟩
  · intro value _
    rfl
  · intro items items' like
    have texts : items.map Value.text = items'.map Value.text := by
      induction like with
      | nil => rfl
      | cons first _ ih => rw [List.map_cons, List.map_cons, first, ih]
    rw [Value.text, Value.text, itemTexts_eq, itemTexts_eq, texts]
  · intro fields fields' _
    rfl
  · intro index index' _
    rfl

theorem toNumber (like : Like matched value value') : value.toNumber = value'.toNumber := by
  have texts := like.text
  cases like with
  | array => rw [Value.toNumber, Value.toNumber, texts]
  | _ => rfl

end Like

/-! ## Comparing -/

/-- **A matching tells the print blocks of two values apart** as they are. -/
def KeptApart (matched : Nat → Nat → Prop) (value other : Value) : Prop :=
  ∀ index ∈ value.blocks, ∀ index' ∈ other.blocks, ∀ place place',
    matched index place → matched index' place' → (index = index' ↔ place = place')

/-- What is told apart in wider values is told apart in narrower ones. -/
theorem KeptApart.mono {value other value' other' : Value}
    (apart : KeptApart matched value other) (sub : value'.blocks ⊆ value.blocks)
    (sub' : other'.blocks ⊆ other.blocks) : KeptApart matched value' other' :=
  fun index mem index' mem' => apart index (sub mem) index' (sub' mem')

/-- Comparing a value with any other gives the same as comparing values that are like them, as
far as the matching tells the print blocks apart. -/
def ComparesLike (matched : Nat → Nat → Prop) (value value' : Value) : Prop :=
  ∀ {other other' : Value}, Like matched other other' → KeptApart matched value other →
    value.strictEquals other = value'.strictEquals other'

theorem strictItems_like {items items' others others' : List Value}
    (compare : List.Forall₂ (ComparesLike matched) items items')
    (likes : List.Forall₂ (Like matched) others others')
    (apart : KeptApart matched (array items) (array others)) :
    strictEquals.strictItems items others = strictEquals.strictItems items' others' := by
  induction compare generalizing others others' with
  | nil => cases likes <;> rfl
  | @cons item item' rest rest' first _ ih =>
    cases likes with
    | nil => rfl
    | @cons other other' more more' like likes =>
      have here : KeptApart matched item other :=
        apart.mono (List.subset_append_left _ _) (List.subset_append_left _ _)
      have behind : KeptApart matched (array rest) (array more) :=
        apart.mono (List.subset_append_right _ _) (List.subset_append_right _ _)
      rw [strictEquals.strictItems, strictEquals.strictItems, first like here, ih likes behind]

theorem blocks_subset_of_get? {fields : Table Value} {name : String} {value : Value}
    (found : fields.get? name = some value) : value.blocks ⊆ (object fields).blocks :=
  fun _ mem => mem_blocks_object.mpr ⟨_, Table.mem_of_get? found, mem⟩

theorem strictFields_like {fields fields' others others' : Table Value}
    (compare : Table.Like (ComparesLike matched) fields fields')
    (likes : Table.Like (Like matched) others others')
    (apart : KeptApart matched (object fields) (object others)) :
    strictEquals.strictFields fields others = strictEquals.strictFields fields' others' := by
  induction compare with
  | nil => rfl
  | @cons name value value' rest rest' first _ ih =>
    have behind : KeptApart matched (object rest) (object others) :=
      apart.mono (List.subset_append_right _ _) (List.Subset.refl _)
    rw [strictEquals.strictFields, strictEquals.strictFields, ih behind]
    -- The other objects have a field of that name both or neither.
    have found := likes.get? name
    cases other : others.get? name with
    | none =>
      rw [other] at found
      cases other' : others'.get? name with
      | none => rfl
      | some _ =>
        rw [other'] at found
        cases found
    | some value =>
      rw [other] at found
      cases other' : others'.get? name with
      | none =>
        rw [other'] at found
        cases found
      | some value' =>
        rw [other'] at found
        cases found with
        | some like =>
          have here : KeptApart matched _ value :=
            apart.mono (List.subset_append_left _ _) (blocks_subset_of_get? other)
          exact congrArg (· && _) (first like here)

/-- **Comparing gives the same for values that are alike**, as far as the matching tells their
print blocks apart. -/
theorem Like.strictEquals (like : Like matched value value') (like' : Like matched other other')
    (apart : KeptApart matched value other) :
    value.strictEquals other = value'.strictEquals other' := by
  suffices closed : Closed matched (ComparesLike matched) from
    closed.of_like value like like' apart
  refine ⟨?_, ?_, ?_, ?_⟩
  · intro value plain other other' like apart
    cases value with
    | array | object => exact plain.elim
    | function callable =>
      cases callable with
      | block => exact plain.elim
      | host => cases like <;> rfl
    | _ => cases like <;> rfl
  · intro items items' compare other other' like apart
    cases like with
    | array likes =>
      have lengths := compare.length_eq
      have lengths' := likes.length_eq
      rw [Value.strictEquals, Value.strictEquals, lengths, lengths',
        strictItems_like compare likes apart]
    | _ => rfl
  · intro fields fields' compare other other' like apart
    cases like with
    | object likes =>
      rw [Value.strictEquals, Value.strictEquals, compare.length_eq, likes.length_eq,
        strictFields_like compare likes apart]
    | _ => rfl
  · intro index index' same other other' like apart
    cases like with
    | block same' =>
      have equal := apart _ List.mem_cons_self _ List.mem_cons_self _ _ same same'
      simp only [Value.strictEquals, Value.same, beq_eq_beq, Callable.block.injEq, equal]
    | _ => rfl

theorem Like.comparesAsNumbers (like : Like matched value value')
    (like' : Like matched other other') :
    comparesAsNumbers value other = comparesAsNumbers value' other' := by
  cases like <;> cases like' <;> rfl

theorem Like.looseEquals (like : Like matched value value') (like' : Like matched other other')
    (apart : KeptApart matched value other) :
    value.looseEquals other = value'.looseEquals other' := by
  unfold Value.looseEquals
  rw [like.isNullish, like'.isNullish, like.comparesAsNumbers like', like.toNumber,
    like'.toNumber, like.strictEquals like' apart]

theorem Like.sameOrNaN (like : Like matched value value') (like' : Like matched other other')
    (apart : KeptApart matched value other) :
    value.sameOrNaN other = value'.sameOrNaN other' := by
  have equal := like.strictEquals like' apart
  cases like with
  | number => cases like' <;> rfl
  | _ => exact equal

end Value

end ViewTemplate
