import ViewTemplate.Render.State

/-!
# Steps are told apart by comparing them

Steps, and everything that they are made of, are compared by functions of their own.
These functions find two trees alike exactly when they are the same tree, so that looking
for a print block in the table of blocks finds that very block.

Numbers are the only place where this could fail: compared as numbers, NaN differs from
itself and the two zeros are one.  Trees compare their bits.
-/

namespace ViewTemplate

namespace Snippet

theorem toBits_injective {a b : Float} (same : a.toBits = b.toBits) : a = b := by
  obtain ⟨a, _⟩ := a
  obtain ⟨b, _⟩ := b
  cases same
  rfl

/-! ## Snippets -/

namespace Expr

mutual

/-- Every expression is found to be itself. -/
theorem same_refl : (expr : Expr) → expr.same expr = true
  | .number .. | .string .. | .boolean .. | .null _ | .undefined _ | .identifier ..
  | .this _ | .update .. => by
    simp [same]
  | .binary _ _ left right => by
    simp [same, same_refl left, same_refl right]
  | .unary _ _ operand => by
    simp [same, same_refl operand]
  | .member _ target key _ _ => by
    simp [same, same_refl target, same_refl key]
  | .call _ callee arguments => by
    simp [same, same_refl callee, sameItems_refl arguments]
  | .ternary _ condition consequent alternate => by
    simp [same, same_refl condition, same_refl consequent, same_refl alternate]
  | .object _ properties => by
    simp [same, sameProperties_refl properties]
  | .array _ items => by
    simp [same, sameItems_refl items]
  | .assignment _ _ _ value => by
    simp [same, same_refl value]

theorem sameItems_refl : (items : List Expr) → same.sameItems items items = true
  | [] => rfl
  | item :: rest => by
    simp [same.sameItems, same_refl item, sameItems_refl rest]

theorem sameProperties_refl :
    (properties : List (Property Expr)) → same.sameProperties properties properties = true
  | [] => rfl
  | ⟨_, _, value⟩ :: rest => by
    simp [same.sameProperties, same_refl value, sameProperties_refl rest]

end

mutual

/-- An expression is found to be no other. -/
theorem eq_of_same : (expr other : Expr) → expr.same other = true → expr = other
  | .number _ value, other, found => by
    cases other <;> simp_all [same]
    exact toBits_injective found.2
  | .string .., other, found | .boolean .., other, found | .null _, other, found
  | .undefined _, other, found | .identifier .., other, found | .this _, other, found
  | .update .., other, found => by
    cases other <;> simp_all [same]
  | .binary _ _ left right, other, found => by
    cases other <;> simp [same] at found
    simp [found, eq_of_same left _ found.1.2, eq_of_same right _ found.2]
  | .unary _ _ operand, other, found => by
    cases other <;> simp [same] at found
    simp [found, eq_of_same operand _ found.2]
  | .member _ target key _ _, other, found => by
    cases other <;> simp [same] at found
    simp [found, eq_of_same target _ found.1.1.1.2, eq_of_same key _ found.1.1.2]
  | .call _ callee arguments, other, found => by
    cases other <;> simp [same] at found
    simp [found, eq_of_same callee _ found.1.2, eq_of_sameItems arguments _ found.2]
  | .ternary _ condition consequent alternate, other, found => by
    cases other <;> simp [same] at found
    simp [found, eq_of_same condition _ found.1.1.2, eq_of_same consequent _ found.1.2,
      eq_of_same alternate _ found.2]
  | .object _ properties, other, found => by
    cases other <;> simp [same] at found
    simp [found, eq_of_sameProperties properties _ found.2]
  | .array _ items, other, found => by
    cases other <;> simp [same] at found
    simp [found, eq_of_sameItems items _ found.2]
  | .assignment _ _ _ value, other, found => by
    cases other <;> simp [same] at found
    simp [found, eq_of_same value _ found.2]

theorem eq_of_sameItems :
    (items others : List Expr) → same.sameItems items others = true → items = others
  | [], others, found => by
    cases others <;> simp_all [same.sameItems]
  | item :: rest, others, found => by
    cases others <;> simp [same.sameItems] at found
    simp [eq_of_same item _ found.1, eq_of_sameItems rest _ found.2]

theorem eq_of_sameProperties : (properties others : List (Property Expr)) →
    same.sameProperties properties others = true → properties = others
  | [], others, found => by
    cases others <;> simp_all [same.sameProperties]
  | ⟨_, _, value⟩ :: rest, ⟨_, _, value'⟩ :: others, found => by
    simp [same.sameProperties] at found
    simp [found, eq_of_same value value' found.1.2, eq_of_sameProperties rest others found.2]

end

instance : LawfulBEq Expr where
  rfl := same_refl _
  eq_of_beq := eq_of_same _ _

end Expr

instance : LawfulBEq Statement where
  rfl {statement} := by
    change statement.same statement = true
    cases statement <;> simp [Statement.same]
  eq_of_beq {statement other} found := by
    change statement.same other = true at found
    cases statement <;> cases other <;> simp_all [Statement.same]

end Snippet

deriving instance ReflBEq, LawfulBEq for Captured

deriving instance ReflBEq, LawfulBEq for AttributePart

deriving instance ReflBEq, LawfulBEq for AttributeStep

/-! ## Steps -/

namespace Step

mutual

/-- Every step is found to be itself. -/
theorem same_refl : (step : Step) → step.same step = true
  | .text _ | .comment _ | .cdata _ | .doctype | .openTag .. | .closeTag _ | .renderPartial ..
  | .renderContent _ | .saveTarget | .mergeTarget _ | .renderValue _ | .renderAction _
  | .execute _ | .setLayout _ => by
    simp [same]
  | .block body | .loop _ body | .printBlock _ _ body => by
    simp [same, sameList_refl body]
  | .branch _ consequent alternate => by
    simp [same, sameList_refl consequent, sameOption_refl alternate]
  | .switch _ cases fallback => by
    simp [same, sameCases_refl cases, sameOption_refl fallback]
  | .foreach _ _ body empty => by
    simp [same, sameList_refl body, sameOption_refl empty]

theorem sameList_refl : (steps : List Step) → same.sameList steps steps = true
  | [] => by
    simp [same.sameList]
  | step :: rest => by
    simp [same.sameList, same_refl step, sameList_refl rest]

theorem sameOption_refl : (steps : Option (List Step)) → same.sameOption steps steps = true
  | none => by
    simp [same.sameOption]
  | some steps => by
    simp [same.sameOption, sameList_refl steps]

theorem sameCases_refl :
    (cases : List (Expression × List Step)) → same.sameCases cases cases = true
  | [] => by
    simp [same.sameCases]
  | (_, body) :: rest => by
    simp [same.sameCases, sameList_refl body, sameCases_refl rest]

end

mutual

/-- A step is found to be no other. -/
theorem eq_of_same : (step other : Step) → step.same other = true → step = other
  | .text _, other, found | .comment _, other, found | .cdata _, other, found
  | .doctype, other, found | .openTag .., other, found | .closeTag _, other, found
  | .renderPartial .., other, found | .renderContent _, other, found | .saveTarget, other, found
  | .mergeTarget _, other, found | .renderValue _, other, found | .renderAction _, other, found
  | .execute _, other, found | .setLayout _, other, found => by
    cases other <;> simp_all [same]
  | .block body, other, found => by
    cases other <;> simp [same] at found
    simp [eq_of_sameList body _ found]
  | .loop _ body, other, found => by
    cases other <;> simp [same] at found
    simp [found, eq_of_sameList body _ found.2]
  | .printBlock _ _ body, other, found => by
    cases other <;> simp [same] at found
    simp [found, eq_of_sameList body _ found.2]
  | .branch _ consequent alternate, other, found => by
    cases other <;> simp [same] at found
    simp [found, eq_of_sameList consequent _ found.1.2, eq_of_sameOption alternate _ found.2]
  | .switch _ cases fallback, other, found => by
    cases other <;> simp [same] at found
    simp [found, eq_of_sameCases cases _ found.1.2, eq_of_sameOption fallback _ found.2]
  | .foreach _ _ body empty, other, found => by
    cases other <;> simp [same] at found
    simp [found, eq_of_sameList body _ found.1.2, eq_of_sameOption empty _ found.2]

theorem eq_of_sameList :
    (steps others : List Step) → same.sameList steps others = true → steps = others
  | [], others, found => by
    cases others <;> simp_all [same.sameList]
  | step :: rest, others, found => by
    cases others <;> simp [same.sameList] at found
    simp [eq_of_same step _ found.1, eq_of_sameList rest _ found.2]

theorem eq_of_sameOption :
    (steps others : Option (List Step)) → same.sameOption steps others = true → steps = others
  | none, others, found => by
    cases others <;> simp_all [same.sameOption]
  | some steps, others, found => by
    cases others <;> simp [same.sameOption] at found
    simp [eq_of_sameList steps _ found]

theorem eq_of_sameCases : (cases others : List (Expression × List Step)) →
    same.sameCases cases others = true → cases = others
  | [], others, found => by
    cases others <;> simp_all [same.sameCases]
  | (_, body) :: rest, others, found => by
    cases others <;> simp [same.sameCases] at found
    obtain ⟨⟨rfl, body'⟩, rest'⟩ := found
    simp [eq_of_sameList body _ body', eq_of_sameCases rest _ rest']

end

instance : LawfulBEq Step where
  rfl := same_refl _
  eq_of_beq := eq_of_same _ _

end Step

deriving instance ReflBEq, LawfulBEq for BoundBlock

end ViewTemplate
