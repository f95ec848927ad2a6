import Highlight.Source.Context

/-!
Contract: the details of several occurrences together.

Owns: the union of details, stated for any set of them, its uniqueness, and its
agreement with merging details one after another. Order and repetition leave no
trace in a union, so that merging needs no laws of its own.
-/

set_option autoImplicit false

namespace Highlight

theorem Context.isBinding_iff (context : Context) :
    context.isBinding = true ↔ context ∉ [.use, .imported, .exported] := by
  cases context <;> simp [isBinding]

namespace Details

theorem isBinding_iff (details : Details) :
    details.isBinding = true ↔ ∃ context ∈ details.contexts, context.isBinding = true := by
  simp only [isBinding, List.any_eq_true, Std.ExtTreeSet.mem_toList]

/-- The details have the contexts of all the details in a set, and a function type if one of these
has it. -/
structure IsUnion (among : Details → Prop) (merged : Details) : Prop where
  contexts : ∀ context, context ∈ merged.contexts ↔
    ∃ details, among details ∧ context ∈ details.contexts
  functionTyped : merged.functionTyped = true ↔
    ∃ details, among details ∧ details.functionTyped = true

theorem isUnion_empty : IsUnion (fun _ => False) Details.empty where
  contexts := by simp [Details.empty]
  functionTyped := by simp [Details.empty]

namespace IsUnion

variable {among : Details → Prop} {merged : Details} (isUnion : IsUnion among merged)
include isUnion

/-- A set has one union. -/
theorem unique
    {other : Details}
    (isUnionToo : IsUnion among other) :
    merged = other := by
  have sameType : merged.functionTyped = other.functionTyped := by
    rw [Bool.eq_iff_iff, isUnion.functionTyped, isUnionToo.functionTyped]
  have sameContexts : merged.contexts = other.contexts := by
    apply Std.ExtTreeSet.ext_mem
    intro context
    rw [isUnion.contexts, isUnionToo.contexts]
  cases merged
  cases other
  rw [Details.mk.injEq]
  exact ⟨sameType, sameContexts⟩

theorem congr
    {others : Details → Prop}
    (same : ∀ details, among details ↔ others details) :
    IsUnion others merged := by
  have sameSet : among = others := funext fun details => propext (same details)
  rwa [← sameSet]

/-- One more element of the set. -/
theorem merge (added : Details) :
    IsUnion (fun details => among details ∨ details = added) (merged.merge added) := by
  refine ⟨fun context => ?_, ?_⟩
  · rw [Details.merge, Std.ExtTreeSet.mem_union_iff, isUnion.contexts]
    simp only [or_and_right, exists_or, exists_eq_left]
  · rw [Details.merge, Bool.or_eq_true, isUnion.functionTyped]
    simp only [or_and_right, exists_or, exists_eq_left]

theorem foldl_merge (added : List Details) :
    IsUnion (fun details => among details ∨ details ∈ added) (added.foldl Details.merge merged) := by
  induction added generalizing among merged with
  | nil => exact isUnion.congr (by simp)
  | cons first rest inductionHypothesis =>
      refine (inductionHypothesis (isUnion.merge first)).congr fun details => ?_
      rw [List.mem_cons, or_assoc]

/-- A union binds the name if one of its elements does. -/
theorem isBinding_iff :
    merged.isBinding = true ↔ ∃ details, among details ∧ details.isBinding = true := by
  simp only [Details.isBinding_iff, isUnion.contexts]
  constructor
  · rintro ⟨context, ⟨details, isAmong, inContexts⟩, binds⟩
    exact ⟨details, isAmong, context, inContexts, binds⟩
  · rintro ⟨details, isAmong, context, inContexts, binds⟩
    exact ⟨context, ⟨details, isAmong, inContexts⟩, binds⟩

end IsUnion

/-- Details merged one after another are the union of all. -/
theorem isUnion_foldl_merge (all : List Details) :
    IsUnion (· ∈ all) (all.foldl Details.merge Details.empty) :=
  (isUnion_empty.foldl_merge all).congr (by simp)

/-- Details merged in another order, or some of them several times, come to the same. -/
theorem foldl_merge_eq_of_mem_iff
    {left right : List Details}
    (same : ∀ details, details ∈ left ↔ details ∈ right) :
    left.foldl Details.merge Details.empty = right.foldl Details.merge Details.empty :=
  ((isUnion_foldl_merge left).congr same).unique (isUnion_foldl_merge right)

end Details

end Highlight
