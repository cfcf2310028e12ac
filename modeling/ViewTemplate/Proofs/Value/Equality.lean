import ViewTemplate.Proofs.Table
import ViewTemplate.Proofs.Value.Likeness

/-!
# Laws of comparing values

Values are compared in three ways, and two of them are one: comparing without conversions
is comparing as data (`strictEquals_eq_same`).  That way is symmetric and transitive, but
not reflexive, since NaN differs from itself.  Comparing with conversions is symmetric and
finds all values equal that are the same.

Only the names of one of two objects are gone through.  That this is enough, and that it
does not matter which of the two it is, comes from counting: names are distinct, so a
table that knows all names of another and is no longer knows no other name
(`Table.names_perm`).  Two objects are then the same exactly if under every name they have
the same entry, or none (`same_object_iff`), in which neither side is singled out and the
order of fields does not occur.

## Main Definitions

* `Value.distinctNames` — the fields of every object in a value have distinct names
* `Value.Rearranged` — values that differ in the order of fields only, at any depth

## Main Results

* `Value.strictEquals_eq_same` — comparing without conversions is comparing as data
* `Value.same_comm`, `Value.same_trans` — it is symmetric and transitive
* `Value.Rearranged.same`, `Value.Rearranged.looseEquals` — the order of fields does not count
* `Value.equality_laws` — these laws for all three comparisons

-/

namespace ViewTemplate

/-! ## Numbers -/

namespace Number

open Float.Model (UnpackedFloat)

/-- Finite forms of one sign compare by exponent, then by mantissa. -/
theorem finite_compare_eq_iff {exponent exponent' : Int} {mantissa mantissa' : Nat} :
    (compare exponent exponent').then (compare mantissa mantissa') = .eq ↔
      exponent = exponent' ∧ mantissa = mantissa' := by
  rw [Ordering.then_eq_eq, Std.LawfulEqOrd.compare_eq_iff_eq, Std.LawfulEqOrd.compare_eq_iff_eq]

/-- What compares as equal is one form, which is not NaN, or zeros with any signs. -/
theorem eq_of_compare {first second : UnpackedFloat} (equal : first.compare second = some .eq) :
    first = second ∧ first ≠ .notANumber ∨
      ∃ sign sign', first = .zero sign ∧ second = .zero sign' := by
  cases first with
  | notANumber => cases second <;> cases equal
  | infinity sign =>
    cases second with
    | infinity sign' =>
      have same : sign = sign' := by
        cases sign <;> cases sign' <;> first | rfl | cases equal
      exact .inl ⟨congrArg _ same, UnpackedFloat.noConfusion⟩
    | _ => cases sign <;> cases equal
  | zero sign =>
    cases second with
    | zero sign' => exact .inr ⟨sign, sign', rfl, rfl⟩
    | notANumber => cases equal
    | finite sign' | infinity sign' => cases sign' <;> cases equal
  | finite sign =>
    cases second with
    | notANumber => cases equal
    | zero => cases sign <;> cases equal
    | infinity sign' => cases sign' <;> cases equal
    | finite sign' =>
      cases sign <;> cases sign'
      case positive.positive =>
        obtain ⟨rfl, rfl⟩ := finite_compare_eq_iff.1 (Option.some.inj equal)
        exact .inl ⟨rfl, UnpackedFloat.noConfusion⟩
      case negative.negative =>
        obtain ⟨rfl, rfl⟩ := finite_compare_eq_iff.1 (Ordering.swap_eq_eq.1 (Option.some.inj equal))
        exact .inl ⟨rfl, UnpackedFloat.noConfusion⟩
      all_goals cases equal

theorem compare_eq_iff (first second : UnpackedFloat) :
    first.compare second = some .eq ↔
      first = second ∧ first ≠ .notANumber ∨
        ∃ sign sign', first = .zero sign ∧ second = .zero sign' := by
  refine ⟨eq_of_compare, ?_⟩
  rintro (⟨rfl, number⟩ | ⟨sign, sign', rfl, rfl⟩)
  · cases first with
    | notANumber => exact absurd rfl number
    | infinity sign => cases sign <;> rfl
    | zero => rfl
    | finite sign =>
      cases sign
      · exact congrArg some (Ordering.swap_eq_eq.2 (finite_compare_eq_iff.2 ⟨rfl, rfl⟩))
      · exact congrArg some (finite_compare_eq_iff.2 ⟨rfl, rfl⟩)
  · rfl

/-- Two numbers are equal if they have one form, which is not NaN, or are zeros. -/
theorem beq_iff {x y : Float} :
    (x == y) = true ↔
      x.toModel.unpack = y.toModel.unpack ∧ x.toModel.unpack ≠ .notANumber ∨
        ∃ sign sign', x.toModel.unpack = .zero sign ∧ y.toModel.unpack = .zero sign' := by
  rw [← compare_eq_iff]
  change (x.toModel.unpack.compare y.toModel.unpack == some Ordering.eq) = true ↔ _
  rw [beq_iff_eq]

theorem beq_symm (x y : Float) : (x == y) = (y == x) := by
  have turn {x y : Float} (equal : (x == y) = true) : (y == x) = true := by
    rw [beq_iff] at equal ⊢
    rcases equal with ⟨same, number⟩ | ⟨sign, sign', zero, zero'⟩
    · exact .inl ⟨same.symm, same ▸ number⟩
    · exact .inr ⟨sign', sign, zero', zero⟩
  exact Bool.eq_iff_iff.2 ⟨turn, turn⟩

theorem beq_trans {x y z : Float} (first : (x == y) = true) (second : (y == z) = true) :
    (x == z) = true := by
  rw [beq_iff] at first second ⊢
  rcases first with ⟨same, -⟩ | ⟨sign, sign', zero, zero'⟩
  · rwa [same]
  · rcases second with ⟨same, -⟩ | ⟨-, sign'', -, zero''⟩
    · exact .inr ⟨sign, sign', zero, same ▸ zero'⟩
    · exact .inr ⟨sign, sign'', zero, zero''⟩

end Number

namespace Value

/-! ## Values that hold others -/

/-- Whether a value holds others. -/
def isContainer : Value → Bool
  | array _ | object _ => true
  | _ => false

/-- **Induction over what a value holds.** -/
theorem induction {motive : Value → Prop}
    (leaf : ∀ value, value.isContainer = false → motive value)
    (array : ∀ items, (∀ item ∈ items, motive item) → motive (array items))
    (object : ∀ fields, (∀ field ∈ fields, motive field.2) → motive (object fields)) :
    (value : Value) → motive value
  | .array items => array items fun item mem =>
    have _smaller : sizeOf item < sizeOf items := List.sizeOf_lt_of_mem mem
    induction leaf array object item
  | .object fields => object fields fun field mem =>
    have _smaller : sizeOf field < sizeOf fields := List.sizeOf_lt_of_mem mem
    induction leaf array object field.2
  | .undefined => leaf _ rfl
  | .null => leaf _ rfl
  | .bool _ => leaf _ rfl
  | .number _ => leaf _ rfl
  | .string _ => leaf _ rfl
  | .function _ => leaf _ rfl
termination_by value => sizeOf value
decreasing_by
  · rw [Value.array.sizeOf_spec]
    omega
  · have entry : sizeOf field = 1 + sizeOf field.1 + sizeOf field.2 := rfl
    rw [Value.object.sizeOf_spec]
    omega

/-- **Whether the fields of every object in a value have distinct names**, however deep it
stands. -/
def distinctNames : Value → Bool
  | array items => itemsDistinct items
  | object fields => decide (Table.names fields).Nodup && fieldsDistinct fields
  | _ => true
where
  /-- Whether that is so in the items of an array. -/
  itemsDistinct : List Value → Bool
    | [] => true
    | item :: rest => distinctNames item && itemsDistinct rest
  /-- Whether that is so in the fields of an object. -/
  fieldsDistinct : List (String × Value) → Bool
    | [] => true
    | (_, value) :: rest => distinctNames value && fieldsDistinct rest

theorem distinctNames_array {items : List Value} :
    (array items).distinctNames = true ↔ ∀ item ∈ items, item.distinctNames = true := by
  rw [distinctNames]
  induction items with
  | nil => simp [distinctNames.itemsDistinct]
  | cons item rest ih => simp [distinctNames.itemsDistinct, ih]

theorem distinctNames_object {fields : List (String × Value)} :
    (object fields).distinctNames = true ↔
      (Table.names fields).Nodup ∧ ∀ field ∈ fields, field.2.distinctNames = true := by
  have inside : distinctNames.fieldsDistinct fields = true ↔
      ∀ field ∈ fields, field.2.distinctNames = true := by
    induction fields with
    | nil => simp [distinctNames.fieldsDistinct]
    | cons field rest ih => simp [distinctNames.fieldsDistinct, ih]
  rw [distinctNames, Bool.and_eq_true, decide_eq_true_eq, inside]

/-! ## Comparing as data -/

theorem sameFields_iff {fields others : Table Value} :
    same.sameFields fields others = true ↔
      ∀ field ∈ fields, ∃ other, others.get? field.1 = some other ∧ field.2.same other = true := by
  induction fields with
  | nil => simp [same.sameFields]
  | cons field rest ih =>
    rw [same.sameFields, Bool.and_eq_true, ih, List.forall_mem_cons]
    refine and_congr_left fun _ => ?_
    cases others.get? field.1 <;> simp

/-- **Objects are the same as finite maps**: under every name both have the same entry, or
none. -/
theorem same_object_iff {fields others : Table Value} (distinct : fields.names.Nodup)
    (distinct' : others.names.Nodup) :
    (object fields).same (object others) = true ↔
      ∀ name, Option.Rel (fun a b => a.same b = true) (fields.get? name) (others.get? name) := by
  rw [same, Bool.and_eq_true, beq_iff_eq, sameFields_iff]
  constructor
  · rintro ⟨lengths, found⟩ name
    have known : fields.names ⊆ others.names := by
      intro name mem
      obtain ⟨field, here, rfl⟩ := List.mem_map.1 mem
      obtain ⟨other, there, -⟩ := found field here
      rw [← Table.contains_iff_mem_names, Table.contains, there, Option.isSome_some]
    -- The other object is no longer, so it has no further names.
    have names := Table.names_perm distinct known (Nat.le_of_eq lengths.symm)
    cases entry : fields.get? name with
    | some value =>
      obtain ⟨other, there, equal⟩ := found _ (Table.mem_of_get? entry)
      rw [there]
      exact .some equal
    | none =>
      have unknown : name ∉ others.names := by
        rw [← names.mem_iff, ← Table.contains_iff_mem_names, Table.contains, entry]
        decide
      rw [Table.get?_eq_none unknown]
      exact .none
  · intro entries
    have known (name : String) : name ∈ fields.names ↔ name ∈ others.names := by
      rw [← Table.contains_iff_mem_names, ← Table.contains_iff_mem_names, Table.contains,
        Table.contains]
      have entry := entries name
      generalize fields.get? name = found at entry ⊢
      generalize others.get? name = found' at entry ⊢
      cases entry <;> simp
    have names := (List.perm_ext_iff_of_nodup distinct distinct').2 known
    refine ⟨?_, fun field mem => ?_⟩
    · have lengths := names.length_eq
      rwa [Table.names, Table.names, List.length_map, List.length_map] at lengths
    · have entry := entries field.1
      rw [Table.get?_of_mem distinct mem] at entry
      generalize others.get? field.1 = found at entry ⊢
      cases entry with
      | some equal => exact ⟨_, rfl, equal⟩

/-- Comparing without conversions gives what comparing as data does, whatever a value is compared
with. -/
abbrev ComparesAsData (value : Value) : Prop :=
  ∀ other, value.strictEquals other = value.same other

theorem strictItems_eq {items : List Value} (each : ∀ item ∈ items, item.ComparesAsData)
    (others : List Value) :
    (items.length == others.length && strictEquals.strictItems items others)
      = same.sameItems items others := by
  induction items generalizing others with
  | nil => cases others <;> rfl
  | cons item rest ih =>
    obtain ⟨first, later⟩ := List.forall_mem_cons.1 each
    cases others with
    | nil => rfl
    | cons other more =>
      rw [strictEquals.strictItems, same.sameItems, first other, ← ih later more]
      simp [Bool.and_left_comm]

theorem strictFields_eq {fields : Table Value} (each : ∀ field ∈ fields, field.2.ComparesAsData)
    (others : Table Value) :
    strictEquals.strictFields fields others = same.sameFields fields others := by
  induction fields with
  | nil => rfl
  | cons field rest ih =>
    obtain ⟨first, later⟩ := List.forall_mem_cons.1 each
    rw [strictEquals.strictFields, same.sameFields, ih later]
    cases others.get? field.1 with
    | none => rfl
    | some other => exact congrArg (· && _) (first other)

/-- **Comparing without conversions is comparing as data.** -/
theorem strictEquals_eq_same (value : Value) : value.ComparesAsData := by
  induction value using induction with
  | leaf value leaf =>
    intro other
    cases value with
    | array | object => cases leaf
    | number => cases other <;> rfl
    | _ => cases other <;> rfl
  | array items ih =>
    intro other
    cases other with
    | array others =>
      rw [strictEquals, same]
      exact strictItems_eq ih others
    | _ => rfl
  | object fields ih =>
    intro other
    cases other with
    | object others => rw [strictEquals, same, strictFields_eq ih]
    | _ => rfl

/-! ## Symmetry and transitivity -/

/-- It makes no difference which of two values comes first, as long as fields have distinct
names. -/
abbrev ComparesEitherWay (value : Value) : Prop :=
  value.distinctNames = true → ∀ other, other.distinctNames = true →
    value.same other = other.same value

theorem sameItems_comm {items others : List Value}
    (each : ∀ item ∈ items, ∀ other ∈ others, item.same other = other.same item) :
    same.sameItems items others = same.sameItems others items := by
  induction items generalizing others with
  | nil => cases others <;> rfl
  | cons item rest ih =>
    cases others with
    | nil => rfl
    | cons other more =>
      have first := each item List.mem_cons_self other List.mem_cons_self
      have later := ih fun item mem other mem' =>
        each item (List.mem_cons_of_mem _ mem) other (List.mem_cons_of_mem _ mem')
      rw [same.sameItems, same.sameItems, first, later]

/-- **Comparing is symmetric.** -/
theorem same_comm (value : Value) : value.ComparesEitherWay := by
  induction value using induction with
  | leaf value leaf =>
    intro _ other _
    cases value with
    | array | object => cases leaf
    | number x =>
      cases other with
      | number y => exact Number.beq_symm x y
      | _ => rfl
    | _ => cases other <;> simp [same, Bool.beq_comm]
  | array items ih =>
    intro distinct other distinct'
    cases other with
    | array others =>
      rw [distinctNames_array] at distinct distinct'
      exact sameItems_comm fun item mem other mem' =>
        ih item mem (distinct item mem) other (distinct' other mem')
    | _ => rfl
  | object fields ih =>
    intro distinct other distinct'
    cases other with
    | object others =>
      rw [distinctNames_object] at distinct distinct'
      rw [Bool.eq_iff_iff, same_object_iff distinct.1 distinct'.1,
        same_object_iff distinct'.1 distinct.1]
      refine forall_congr' fun name => ?_
      cases entry : Table.get? fields name with
      | none => cases Table.get? others name <;> simp
      | some value =>
        cases entry' : Table.get? others name with
        | none => simp
        | some other =>
          have mem := Table.mem_of_get? entry
          have mem' := Table.mem_of_get? entry'
          have either := ih _ mem (distinct.2 _ mem) other (distinct'.2 _ mem')
          rw [Option.rel_some_some, Option.rel_some_some, either]
    | _ => rfl

/-- What is the same as a value that is the same as another is the same as the other. -/
abbrev ComparesOnward (value : Value) : Prop :=
  ∀ {middle last : Value}, value.same middle = true → middle.same last = true →
    value.same last = true

theorem sameItems_trans {items middle others : List Value}
    (each : ∀ item ∈ items, item.ComparesOnward)
    (first : same.sameItems items middle = true) (second : same.sameItems middle others = true) :
    same.sameItems items others = true := by
  induction items generalizing middle others with
  | nil =>
    cases middle with
    | nil => exact second
    | cons => cases first
  | cons item rest ih =>
    cases middle with
    | nil => cases first
    | cons between more =>
      cases others with
      | nil => cases second
      | cons other others =>
        obtain ⟨here, behind⟩ := List.forall_mem_cons.1 each
        rw [same.sameItems, Bool.and_eq_true] at first second ⊢
        exact ⟨here first.1 second.1, ih behind first.2 second.2⟩

/-- **Comparing is transitive.** -/
theorem same_trans (value : Value) : value.ComparesOnward := by
  induction value using induction with
  | leaf value leaf =>
    intro middle last first second
    cases value with
    | array | object => cases leaf
    | number x =>
      cases middle with
      | number y =>
        cases last with
        | number z => exact Number.beq_trans first second
        | _ => cases second
      | _ => cases first
    | undefined | null => cases middle <;> first | exact second | cases first
    | bool | string | function =>
      cases middle <;> first | cases first | exact eq_of_beq first ▸ second
  | array items ih =>
    intro middle last first second
    cases middle with
    | array between =>
      cases last with
      | array others => exact sameItems_trans ih first second
      | _ => cases second
    | _ => cases first
  | object fields ih =>
    intro middle last first second
    cases middle with
    | object between =>
      cases last with
      | object others =>
        rw [same, Bool.and_eq_true, beq_iff_eq, sameFields_iff] at first second ⊢
        refine ⟨first.1.trans second.1, fun field mem => ?_⟩
        obtain ⟨middle, there, here⟩ := first.2 field mem
        obtain ⟨last, there', onward⟩ := second.2 _ (Table.mem_of_get? there)
        exact ⟨last, there', ih field mem here onward⟩
      | _ => cases second
    | _ => cases first

/-! ## Comparing with conversions -/

theorem comparesAsNumbers_comm (value other : Value) :
    comparesAsNumbers value other = comparesAsNumbers other value := by
  cases value <;> cases other <;> rfl

theorem looseEquals_comm {value other : Value} (distinct : value.distinctNames = true)
    (distinct' : other.distinctNames = true) :
    value.looseEquals other = other.looseEquals value := by
  unfold looseEquals
  rw [Bool.or_comm, Bool.and_comm, comparesAsNumbers_comm, Number.beq_symm,
    strictEquals_eq_same, strictEquals_eq_same, same_comm value distinct other distinct']

/-- Values that are the same are of one kind. -/
theorem isNullish_of_same {value other : Value} (equal : value.same other = true) :
    value.isNullish = other.isNullish := by
  cases value <;> cases other <;> first | rfl | cases equal

/-- Equal truth values count as equal numbers, since zero and one equal themselves. -/
theorem toNumber_of_same {value other : Value} (equal : value.same other = true)
    (numbers : comparesAsNumbers value other = true) :
    (value.toNumber == other.toNumber) = true := by
  cases value with
  | bool value =>
    cases other with
    | bool other =>
      obtain rfl : value = other := eq_of_beq equal
      cases value <;> decide
    | _ => cases equal
  | _ => cases other <;> first | (cases equal; done) | cases numbers

theorem looseEquals_of_strictEquals {value other : Value}
    (equal : value.strictEquals other = true) : value.looseEquals other = true := by
  have same := strictEquals_eq_same value other ▸ equal
  unfold looseEquals
  rw [isNullish_of_same same, Bool.or_self, Bool.and_self]
  split
  · assumption
  · split
    · exact toNumber_of_same same ‹_›
    · exact equal

/-! ## The order of fields -/

/-- **Values that differ in the order of fields only**, in the objects in them at any depth. -/
inductive Rearranged : Value → Value → Prop where
  | refl (value : Value) : Rearranged value value
  | array {items items' : List Value} (each : List.Forall₂ Rearranged items items') :
      Rearranged (array items) (array items')
  | object {fields middle fields' : Table Value} (each : Table.Like Rearranged fields middle)
      (order : middle.Perm fields') : Rearranged (object fields) (object fields')

namespace Rearranged

variable {value value' other other' : Value}

/-- Other orders of fields leave names distinct. -/
theorem distinctNames (moved : Rearranged value value') (distinct : value.distinctNames = true) :
    value'.distinctNames = true := by
  induction value using induction generalizing value' with
  | leaf value leaf => cases moved <;> first | exact distinct | cases leaf
  | array items ih =>
    cases moved with
    | refl => exact distinct
    | array each =>
      rw [distinctNames_array] at distinct ⊢
      induction each with
      | nil => exact List.forall_mem_nil _
      | cons first _ later =>
        obtain ⟨here, behind⟩ := List.forall_mem_cons.1 ih
        obtain ⟨plain, plains⟩ := List.forall_mem_cons.1 distinct
        exact List.forall_mem_cons.2 ⟨here first plain, later behind plains⟩
  | object fields ih =>
    cases moved with
    | refl => exact distinct
    | object each order =>
      rw [distinctNames_object] at distinct ⊢
      have names : (Table.names _).Perm (Table.names _) := order.map _
      refine ⟨names.nodup_iff.1 (each.names_eq ▸ distinct.1), fun field mem => ?_⟩
      have plains := distinct.2
      have mem := order.mem_iff.2 mem
      clear distinct order names
      induction each with
      | nil => cases mem
      | cons first _ later =>
        obtain ⟨here, behind⟩ := List.forall_mem_cons.1 ih
        obtain ⟨plain, plains⟩ := List.forall_mem_cons.1 plains
        rcases List.mem_cons.1 mem with rfl | mem
        · exact here first plain
        · exact later behind plains mem

theorem text (moved : Rearranged value value') : value.text = value'.text := by
  induction value using induction generalizing value' with
  | leaf value leaf => cases moved <;> first | rfl | cases leaf
  | array items ih =>
    cases moved with
    | refl => rfl
    | array each =>
      rw [Value.text, Value.text, itemTexts_eq, itemTexts_eq]
      refine congrArg _ ?_
      induction each with
      | nil => rfl
      | cons first _ later =>
        obtain ⟨here, behind⟩ := List.forall_mem_cons.1 ih
        rw [List.map_cons, List.map_cons, here first, later behind]
  | object fields ih => cases moved <;> rfl

theorem isNullish (moved : Rearranged value value') : value.isNullish = value'.isNullish := by
  cases moved <;> rfl

theorem toNumber (moved : Rearranged value value') : value.toNumber = value'.toNumber := by
  have texts := moved.text
  cases moved with
  | array => rw [Value.toNumber, Value.toNumber, texts]
  | _ => rfl

theorem comparesAsNumbers (moved : Rearranged value value') (moved' : Rearranged other other') :
    comparesAsNumbers value other = Value.comparesAsNumbers value' other' := by
  cases moved <;> cases moved' <;> first | rfl | cases value <;> rfl | cases other <;> rfl

/-- What a value is compared with may be rearranged. -/
abbrev ComparesRearranged (value : Value) : Prop :=
  ∀ {other other' : Value}, other.distinctNames = true → Rearranged other other' →
    value.same other = value.same other'

theorem sameItems {items others others' : List Value}
    (each : ∀ item ∈ items, ComparesRearranged item)
    (distinct : ∀ other ∈ others, other.distinctNames = true)
    (moved : List.Forall₂ Rearranged others others') :
    same.sameItems items others = same.sameItems items others' := by
  induction moved generalizing items with
  | nil => rfl
  | cons first _ ih =>
    obtain ⟨plain, plains⟩ := List.forall_mem_cons.1 distinct
    cases items with
    | nil => rfl
    | cons item rest =>
      obtain ⟨here, behind⟩ := List.forall_mem_cons.1 each
      rw [same.sameItems, same.sameItems, here plain first, ih behind plains]

/-- Fields are looked up by name, so their order does not count, and neither does the order of
the fields in what is found. -/
theorem sameFields {fields others middle others' : Table Value}
    (each : ∀ field ∈ fields, ComparesRearranged field.2) (distinct : others.names.Nodup)
    (plain : ∀ other ∈ others, other.2.distinctNames = true)
    (moved : Table.Like Rearranged others middle) (order : middle.Perm others') :
    same.sameFields fields others = same.sameFields fields others' := by
  induction fields with
  | nil => rfl
  | cons field rest ih =>
    obtain ⟨here, behind⟩ := List.forall_mem_cons.1 each
    rw [same.sameFields, same.sameFields, ih behind]
    have found := moved.get? field.1
    rw [Table.get?_perm (moved.names_eq ▸ distinct) order] at found
    cases entry : others.get? field.1 with
    | none =>
      rw [entry] at found
      cases entry' : others'.get? field.1 with
      | none => rfl
      | some _ => simp [entry'] at found
    | some other =>
      rw [entry] at found
      cases entry' : others'.get? field.1 with
      | none => simp [entry'] at found
      | some other' =>
        rw [entry', Option.rel_some_some] at found
        exact congrArg (· && _) (here (plain _ (Table.mem_of_get? entry)) found)

theorem same_right (value : Value) : ComparesRearranged value := by
  induction value using induction with
  | leaf value leaf =>
    intro other other' _ moved
    cases moved with
    | refl => rfl
    | array | object => cases value <;> first | rfl | cases leaf
  | array items ih =>
    intro other other' distinct moved
    cases moved with
    | refl => rfl
    | object => rfl
    | array each => exact sameItems ih (distinctNames_array.1 distinct) each
  | object fields ih =>
    intro other other' distinct moved
    cases moved with
    | refl => rfl
    | array => rfl
    | object each order =>
      obtain ⟨names, plain⟩ := distinctNames_object.1 distinct
      rw [same, same, sameFields ih names plain each order, each.length_eq, order.length_eq]

/-- **The order of fields does not count** when values are compared, on either side. -/
theorem same (moved : Rearranged value value') (moved' : Rearranged other other')
    (distinct : value.distinctNames = true) (distinct' : other.distinctNames = true) :
    value.same other = value'.same other' := by
  calc value.same other
    _ = value.same other' := same_right value distinct' moved'
    _ = other'.same value := same_comm value distinct other' (moved'.distinctNames distinct')
    _ = other'.same value' := same_right other' distinct moved
    _ = value'.same other' :=
      same_comm other' (moved'.distinctNames distinct') value' (moved.distinctNames distinct)

theorem looseEquals (moved : Rearranged value value') (moved' : Rearranged other other')
    (distinct : value.distinctNames = true) (distinct' : other.distinctNames = true) :
    value.looseEquals other = value'.looseEquals other' := by
  unfold Value.looseEquals
  rw [moved.isNullish, moved'.isNullish, moved.comparesAsNumbers moved', moved.toNumber,
    moved'.toNumber, strictEquals_eq_same, strictEquals_eq_same,
    moved.same moved' distinct distinct']

end Rearranged

/-! ## The laws together -/

/-- **Laws of comparing.**  Comparing without conversions is comparing as data.  It is transitive,
and what it finds equal is equal with conversions too.  Where fields have distinct names, both
comparisons are symmetric, and neither depends on the order of fields, at any depth of either
value. -/
theorem equality_laws (a b : Value) :
    a.strictEquals b = a.same b
      ∧ (∀ c : Value, a.strictEquals b = true → b.strictEquals c = true → a.strictEquals c = true)
      ∧ (a.strictEquals b = true → a.looseEquals b = true)
      ∧ (a.distinctNames = true → b.distinctNames = true →
        a.strictEquals b = b.strictEquals a
          ∧ a.looseEquals b = b.looseEquals a
          ∧ ∀ a' b' : Value, Rearranged a a' → Rearranged b b' →
            a.strictEquals b = a'.strictEquals b' ∧ a.looseEquals b = a'.looseEquals b') := by
  refine ⟨strictEquals_eq_same a b, fun c first second => ?_, looseEquals_of_strictEquals,
    fun distinct distinct' => ⟨?_, looseEquals_comm distinct distinct', fun a' b' moved moved' =>
      ⟨?_, moved.looseEquals moved' distinct distinct'⟩⟩⟩
  · rw [strictEquals_eq_same] at first second ⊢
    exact same_trans a first second
  · rw [strictEquals_eq_same, strictEquals_eq_same]
    exact same_comm a distinct b distinct'
  · rw [strictEquals_eq_same, strictEquals_eq_same]
    exact moved.same moved' distinct distinct'

/-- Two objects with fields in different orders, also inside an array, are equal either way, and
equal to what the first one equals. -/
theorem equality_laws_reordered :
    let a : Value :=
      object [("x", number 1), ("y", array [object [("p", bool true), ("q", string "1")]])]
    let b : Value :=
      object [("y", array [object [("q", string "1"), ("p", bool true)]]), ("x", number 1)]
    a.distinctNames = true ∧ b.distinctNames = true ∧ Rearranged a b
      ∧ a.strictEquals b = true ∧ b.strictEquals a = true ∧ a.looseEquals b = true
      ∧ b.looseEquals a = true ∧ a.strictEquals a = true := by
  intro a b
  have distinct : a.distinctNames = true := by decide
  have distinct' : b.distinctNames = true := by decide
  have moved : Rearranged a b := by
    refine .object (.cons (.refl _) (.cons (.array (.cons ?_ .nil)) .nil)) (.swap _ _ _)
    exact .object (.cons (.refl _) (.cons (.refl _) .nil)) (.swap _ _ _)
  have equal : a.strictEquals b = true := by decide
  obtain ⟨-, onward, loosely, both⟩ := equality_laws a b
  obtain ⟨turned, turned', -⟩ := both distinct distinct'
  have back : b.strictEquals a = true := turned ▸ equal
  have loose : a.looseEquals b = true := loosely equal
  exact ⟨distinct, distinct', moved, equal, back, loose, turned' ▸ loose, onward a equal back⟩

end Value

end ViewTemplate
