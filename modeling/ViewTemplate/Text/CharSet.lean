/-!
# Sets of characters

A character class that a standard lists as ranges of code points, kept as the sorted list of the
code points at which membership changes.

## Main Definitions

* `CharSet` — the boundaries of the ranges
* `CharSet.contains` — membership: an odd number of boundaries lies at or below the code point

## Design Notes

One list of boundaries is shorter than a list of pairs, and looking a character up is one walk
that stops at the first boundary above it.
-/

namespace ViewTemplate.Text

/-- A set of characters, given by the code points where membership changes, in increasing order.
Characters below the first boundary are outside the set. -/
structure CharSet where
  /-- The code points at which a range starts, or the first one after a range, in turn. -/
  boundaries : List Nat

namespace CharSet

/-- Walks the boundaries up to `code`, where `inside` says whether the code points just before the
next boundary belong to the set. -/
def walk : List Nat → Nat → Bool → Bool
  | [], _, inside => inside
  | boundary :: rest, code, inside =>
    if code < boundary then inside else walk rest code (!inside)

/-- Whether the set holds `c`. -/
def contains (set : CharSet) (c : Char) : Bool :=
  walk set.boundaries c.toNat false

/-- The empty list of boundaries is the empty set. -/
@[simp]
theorem contains_nil (c : Char) : contains ⟨[]⟩ c = false := rfl

/-- A character below the first boundary is outside the set. -/
theorem contains_of_lt {boundary : Nat} {rest : List Nat} {c : Char} (h : c.toNat < boundary) :
    contains ⟨boundary :: rest⟩ c = false := by
  simp [contains, walk, h]

end CharSet

end ViewTemplate.Text
