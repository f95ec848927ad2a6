import Highlight.Proofs.Token.Meaning

/-!
Contract: the shape of a tree does not matter.

Owns: the agreement of the tokens of two trees in which the same identifiers
occur at the same places with the same details. How the nodes are nested, in
which order children stand and how often an occurrence is repeated leave no
trace, although occurrences are met in pre-order and the first token of a range
keeps its module on a tie.

Does not own: what the tokens say, and why. That they are determined by it is
enough here.
-/

set_option autoImplicit false

namespace Highlight

/-- What stands at a range leaves no choice of its token. -/
theorem Occurs.Means.eq
    {occurs : Occurs}
    {names : NameMap}
    {text : List Char}
    {left right : RangedToken}
    (leftMeans : occurs.Means names text left)
    (rightMeans : occurs.Means names text right)
    (sameRange : left.range = right.range) :
    left = right := by
  obtain ⟨first, firstStands, firstKind, firstModule, firstLeast⟩ := leftMeans.first
  obtain ⟨other, otherStands, otherKind, otherModule, otherLeast⟩ := rightMeans.first
  have leftHighest := leftMeans.highest
  have leftDeclares := leftMeans.declaration
  rw [sameRange] at firstStands firstLeast leftHighest leftDeclares
  -- Each kind is one of those that the other is the highest of.
  have sameKind : left.kind = right.kind :=
    TokenKind.rank_inj (Nat.le_antisymm (rightMeans.highest _ _ firstStands firstKind)
      (leftHighest _ _ otherStands otherKind))
  rw [sameKind] at firstKind firstLeast
  -- So both modules come from the first identifier of that kind.
  have sameIdentifier : first = other :=
    Std.LawfulEqCmp.compare_eq_iff_eq.mp (Std.OrientedCmp.isLE_antisymm
      (firstLeast other otherStands otherKind) (otherLeast first firstStands firstKind))
  have sameModule : left.definedIn = right.definedIn := by
    rw [← firstModule, ← otherModule, sameIdentifier]
  have sameDeclaration : left.modifiers.declaration = right.modifiers.declaration :=
    Bool.eq_iff_iff.mpr (leftDeclares.trans rightMeans.declaration.symm)
  have sameLibrary : left.modifiers.defaultLibrary = right.modifiers.defaultLibrary :=
    leftMeans.defaultLibrary.trans rightMeans.defaultLibrary.symm
  obtain ⟨leftRange, leftKind, ⟨leftDeclaration, leftLibrary⟩, leftModule⟩ := left
  obtain ⟨rightRange, rightKind, ⟨rightDeclaration, rightLibrary⟩, rightModule⟩ := right
  simp only [RangedToken.mk.injEq, Modifiers.mk.injEq]
  exact ⟨sameRange, sameKind, ⟨sameDeclaration, sameLibrary⟩, sameModule⟩

/-- Merging leaves exactly the tokens that mean what stands at their range. -/
theorem Node.mem_mergeRanges_rawTokens_iff
    (root : Node)
    (names : NameMap)
    (text : List Char)
    (token : RangedToken) :
    token ∈ RangedToken.mergeRanges (root.rawTokens names text) ↔
      root.Holds.Means names text token := by
  have means (merged : RangedToken)
      (isMerged : merged ∈ RangedToken.mergeRanges (root.rawTokens names text)) :
      root.Holds.Means names text merged := by
    have joins := RangedToken.joinOf_of_mem_mergeRanges isMerged
    obtain ⟨tagged, sameTokens, tokensAt⟩ := root.exists_tokensAt names text merged.range
    rw [← sameTokens] at joins
    exact tokensAt.means joins
  refine ⟨means token, fun isMeant => ?_⟩
  -- Something stands at the range, so merging leaves a token there, and no other could mean it.
  obtain ⟨identifier, stands, -⟩ := isMeant.first
  have isRange : token.range ∈
      (RangedToken.mergeRanges (root.rawTokens names text)).map RangedToken.range := by
    rw [RangedToken.mem_map_range_mergeRanges_iff, root.mem_map_range_rawTokens_iff names text]
    exact ⟨identifier, stands⟩
  obtain ⟨merged, isMerged, sameRange⟩ := List.mem_map.mp isRange
  rw [← (means merged isMerged).eq isMeant sameRange]
  exact isMerged

/-- Two trees with the same occurrences, whatever their nesting, the order of their children and
the number of repetitions, have the same tokens. -/
theorem tokens_eq_of_same_occurrences
    (left right : Node)
    (same : ∀ identifier occurrence,
      left.Holds identifier occurrence ↔ right.Holds identifier occurrence)
    (names : NameMap)
    (text : List Char) :
    left.tokens names text = right.tokens names text := by
  have sameOccurs : left.Holds = right.Holds :=
    funext fun identifier => funext fun occurrence => propext (same identifier occurrence)
  have sameMerged : RangedToken.mergeRanges (left.rawTokens names text) =
      RangedToken.mergeRanges (right.rawTokens names text) := by
    refine RangedToken.eq_of_sorted_of_mem_iff (RangedToken.mergeRanges_sorted _)
      (RangedToken.mergeRanges_sorted _) fun token => ?_
    rw [left.mem_mergeRanges_rawTokens_iff, right.mem_mergeRanges_rawTokens_iff, sameOccurs]
  rw [Node.tokens, Node.tokens, RangedToken.normalize, RangedToken.normalize, sameMerged]

def firstLineEntry (start stop : UInt32) (identifier : Identifier) (contexts : List Context) :
    Identifier × Occurrence :=
  (identifier, ⟨⟨⟨0, start⟩, ⟨0, stop⟩⟩, .ofContexts false contexts⟩)

/-- What occurs in `nestedNode`: the module, the name that is bound inside it, the other name, the
use of the first one, and the two names that are bound nowhere. -/
def nestedEntries : List (Identifier × Occurrence) :=
  [firstLineEntry 0 3 (.ofModule "M.f") [],
    firstLineEntry 0 3 (.ofName ⟨"f", 2, some "M"⟩) [.matchBinding],
    firstLineEntry 4 5 (.ofName ⟨"f", 1, none⟩) [.valueBinding],
    firstLineEntry 4 5 (.ofName ⟨"f", 2, some "M"⟩) [],
    firstLineEntry 6 7 (.ofName ⟨"+", 3, some "N"⟩) [.use],
    firstLineEntry 8 9 (.ofName ⟨"x", 4, some "N"⟩) [.use]]

def nodeOf (entry : Identifier × Occurrence) : Node :=
  (Node.leaf entry.2.span).addIdentifier entry.1 entry.2.details

/-- A root that holds nothing, over one node for each occurrence: the last one comes first, and all
of them are repeated below it. -/
def scatteredNode : Node :=
  ⟨⟨⟨0, 0⟩, ⟨0, 9⟩⟩, ∅,
    nestedEntries.reverse.map nodeOf ++ [⟨⟨⟨0, 0⟩, ⟨0, 0⟩⟩, ∅, nestedEntries.map nodeOf⟩]⟩

/-- The two trees list the same occurrences in another order and number. The tokens are those of
the nested tree. -/
theorem tokens_eq_of_same_occurrences_scattered :
    nestedNode.occurrences = nestedEntries ∧
      scatteredNode.occurrences = nestedEntries.reverse ++ nestedEntries ∧
      (∀ identifier occurrence,
        scatteredNode.Holds identifier occurrence ↔ nestedNode.Holds identifier occurrence) ∧
      scatteredNode.tokens nestedNames nestedText = nestedTokens := by
  have nested : nestedNode.occurrences = nestedEntries := by decide +kernel
  have scattered : scatteredNode.occurrences = nestedEntries.reverse ++ nestedEntries := by
    decide +kernel
  have same : ∀ identifier occurrence,
      scatteredNode.Holds identifier occurrence ↔ nestedNode.Holds identifier occurrence := by
    intro identifier occurrence
    rw [Node.Holds, Node.Holds, ← Node.mem_occurrences_iff, ← Node.mem_occurrences_iff, nested,
      scattered]
    simp
  refine ⟨nested, scattered, same, ?_⟩
  rw [tokens_eq_of_same_occurrences scatteredNode nestedNode same]
  decide +kernel

end Highlight
