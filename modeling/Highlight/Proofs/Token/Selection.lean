import Highlight.Proofs.Token.Normalize
import Mathlib.Tactic.ByContra

/-!
Contract: which ranges are kept when overlaps are dropped.

Owns: the greedy rule, stated for any set of ranges without reference to a
traversal, its uniqueness, and its agreement with what the traversal keeps. A
range is kept unless it starts before the end of the last range kept before it
on its line.
-/

set_option autoImplicit false

namespace Highlight

namespace TokenRange

/-- The last of the ranges kept that stand before a range on its line. -/
structure IsLastBefore (kept : List TokenRange) (range last : TokenRange) : Prop where
  isKept : last ∈ kept
  sameLine : last.line = range.line
  before : compare last range = .lt
  latest : ∀ other ∈ kept, other.line = range.line → compare other range = .lt →
    (compare other last).isLE = true

/-- Ranges kept by the greedy rule, in order. -/
structure GreedySelection (candidate : TokenRange → Prop) (kept : List TokenRange) : Prop where
  sorted : kept.Pairwise fun left right => compare left right = .lt
  mem_iff : ∀ range, range ∈ kept ↔
    candidate range ∧ ∀ last, IsLastBefore kept range last →
      last.start.toNat + last.length.toNat ≤ range.start.toNat

def place (range : TokenRange) : Nat :=
  (range.line.toNat * 2 ^ 32 + range.start.toNat) * 2 ^ 32 + (2 ^ 32 - 1 - range.length.toNat)

theorem place_lt_of_compare_eq_lt
    {left right : TokenRange}
    (before : compare left right = .lt) :
    left.place < right.place := by
  have leftStart := left.start.toNat_lt
  have rightStart := right.start.toNat_lt
  have leftLength := left.length.toNat_lt
  have rightLength := right.length.toNat_lt
  rw [compare_eq_lt_iff] at before
  simp only [UInt32.lt_iff_toNat_lt, ← UInt32.toNat_inj] at before
  rw [place, place]
  omega

theorem ne_of_compare_eq_lt
    {left right : TokenRange}
    (before : compare left right = .lt) :
    left ≠ right := by
  rintro rfl
  exact Nat.lt_irrefl _ (place_lt_of_compare_eq_lt before)

/-- Which range is the last one before another depends on the ranges before that one only. -/
theorem IsLastBefore.congr
    {kept other : List TokenRange}
    {range last : TokenRange}
    (isLast : IsLastBefore kept range last)
    (same : ∀ earlier, compare earlier range = .lt → (earlier ∈ kept ↔ earlier ∈ other)) :
    IsLastBefore other range last where
  isKept := (same last isLast.before).mp isLast.isKept
  sameLine := isLast.sameLine
  before := isLast.before
  latest := fun earlier isOther line isBefore =>
    isLast.latest earlier ((same earlier isBefore).mpr isOther) line isBefore

namespace GreedySelection

variable {candidate : TokenRange → Prop} {kept : List TokenRange}
  (selects : GreedySelection candidate kept)
include selects

/-- A candidate that is not kept starts inside a range that is. -/
theorem exists_inside_of_notMem
    {range : TokenRange}
    (isCandidate : candidate range)
    (dropped : range ∉ kept) :
    ∃ earlier ∈ kept, earlier.line = range.line ∧ earlier.start.toNat ≤ range.start.toNat ∧
      range.start.toNat < earlier.start.toNat + earlier.length.toNat := by
  rw [selects.mem_iff, not_and] at dropped
  obtain ⟨last, refused⟩ := Classical.not_forall.mp (dropped isCandidate)
  obtain ⟨isLast, overlaps⟩ := Classical.not_imp.mp refused
  have before := (compare_eq_lt_iff last range).mp isLast.before
  simp only [UInt32.lt_iff_toNat_lt, ← UInt32.toNat_inj, isLast.sameLine] at before
  exact ⟨last, isLast.isKept, isLast.sameLine, by omega, by omega⟩

/-- Two selections from the same candidates keep the same ranges: whether a range is kept depends
on ranges before it only. -/
theorem mem_iff_mem
    {other : List TokenRange}
    (selectsToo : GreedySelection candidate other)
    (range : TokenRange) :
    range ∈ kept ↔ range ∈ other := by
  induction h : range.place using Nat.strongRecOn generalizing range with
  | ind place inductionHypothesis =>
      have same (earlier : TokenRange) (before : compare earlier range = .lt) :
          earlier ∈ kept ↔ earlier ∈ other :=
        inductionHypothesis _ (h ▸ place_lt_of_compare_eq_lt before) earlier rfl
      have sameLast (last : TokenRange) :
          IsLastBefore kept range last ↔ IsLastBefore other range last :=
        ⟨fun isLast => isLast.congr same,
          fun isLast => isLast.congr fun earlier before => (same earlier before).symm⟩
      rw [selects.mem_iff, selectsToo.mem_iff]
      simp only [sameLast]

theorem nodup : kept.Nodup :=
  selects.sorted.imp ne_of_compare_eq_lt

/-- The greedy rule leaves no choice. -/
theorem eq
    {other : List TokenRange}
    (selectsToo : GreedySelection candidate other) :
    kept = other := by
  have sameMembers : kept.Perm other :=
    (List.perm_ext_iff_of_nodup selects.nodup selectsToo.nodup).mpr
      (selects.mem_iff_mem selectsToo)
  refine sameMembers.eq_of_pairwise (fun left right _ _ before after => ?_) selects.sorted
    selectsToo.sorted
  exact absurd after (Std.OrientedCmp.not_lt_of_lt before)

end GreedySelection

end TokenRange

namespace RangedToken

/-- Sorted lists with the same tokens are equal. -/
theorem eq_of_sorted_of_mem_iff
    {left right : List RangedToken}
    (leftSorted : left.Pairwise fun first second => compare first.range second.range = .lt)
    (rightSorted : right.Pairwise fun first second => compare first.range second.range = .lt)
    (same : ∀ token, token ∈ left ↔ token ∈ right) :
    left = right := by
  have distinct {first second : RangedToken} (before : compare first.range second.range = .lt) :
      first ≠ second :=
    fun isSame => TokenRange.ne_of_compare_eq_lt before (congrArg range isSame)
  have sameMembers : left.Perm right :=
    (List.perm_ext_iff_of_nodup (leftSorted.imp distinct) (rightSorted.imp distinct)).mpr same
  refine sameMembers.eq_of_pairwise (fun first second _ _ before after => ?_) leftSorted rightSorted
  exact absurd after (Std.OrientedCmp.not_lt_of_lt before)

/-- In a sorted list in order, a token that stands before another one comes entirely before it. -/
theorem InOrder.precedes
    {tokens : List RangedToken}
    (inOrder : InOrder tokens)
    (sorted : tokens.Pairwise fun left right => compare left.range right.range = .lt)
    {left right : RangedToken}
    (leftMember : left ∈ tokens)
    (rightMember : right ∈ tokens)
    (before : compare left.range right.range = .lt) :
    left.range.Precedes right.range := by
  induction tokens with
  | nil => cases leftMember
  | cons token rest inductionHypothesis =>
      obtain ⟨tokenAfter, restInOrder⟩ := List.pairwise_cons.mp inOrder
      obtain ⟨tokenFirst, restSorted⟩ := List.pairwise_cons.mp sorted
      rcases List.mem_cons.mp rightMember with rfl | rightInRest
      · rcases List.mem_cons.mp leftMember with rfl | leftInRest
        · exact absurd rfl (TokenRange.ne_of_compare_eq_lt before)
        · exact absurd before (Std.OrientedCmp.not_lt_of_lt (tokenFirst left leftInRest))
      · rcases List.mem_cons.mp leftMember with rfl | leftInRest
        · exact tokenAfter right rightInRest
        · exact inductionHypothesis restInOrder restSorted leftInRest rightInRest

/-- A token of a sorted list that is dropped starts inside the last range kept before it. -/
theorem exists_last_of_dropped
    {last : Option TokenRange}
    {tokens : List RangedToken}
    (sorted : tokens.Pairwise fun left right => compare left.range right.range = .lt)
    (lastBefore : ∀ earlier ∈ last, ∀ token ∈ tokens, compare earlier token.range = .lt)
    {token : RangedToken}
    (member : token ∈ tokens)
    (dropped : token ∉ dropOverlaps last tokens) :
    ∃ earlier, (earlier ∈ last ∨ earlier ∈ (dropOverlaps last tokens).map range) ∧
      token.range.startsInside earlier = true ∧ compare earlier token.range = .lt ∧
      ∀ other ∈ dropOverlaps last tokens, compare other.range token.range = .lt →
        (compare other.range earlier).isLE = true := by
  induction tokens generalizing last with
  | nil => cases member
  | cons first rest inductionHypothesis =>
      obtain ⟨firstBefore, restSorted⟩ := List.pairwise_cons.mp sorted
      rw [dropOverlaps] at dropped ⊢
      split at dropped
      · next inside =>
          rw [if_pos inside]
          rcases List.mem_cons.mp member with rfl | inRest
          · obtain ⟨earlier, isLast, startsInside⟩ := (Option.any_eq_true _ _).mp inside
            refine ⟨earlier, Or.inl isLast, startsInside,
              lastBefore earlier isLast token List.mem_cons_self, fun other isKept before => ?_⟩
            have after := firstBefore other ((dropOverlaps_sublist last rest).subset isKept)
            exact absurd before (Std.OrientedCmp.not_lt_of_lt after)
          · exact inductionHypothesis restSorted
              (fun earlier isLast other isOther =>
                lastBefore earlier isLast other (List.mem_cons_of_mem _ isOther))
              inRest dropped
      · next outside =>
          rw [if_neg outside]
          obtain ⟨notFirst, notInRest⟩ := not_or.mp (mt List.mem_cons.mpr dropped)
          have inRest := (List.mem_cons.mp member).resolve_left notFirst
          obtain ⟨earlier, isKept, startsInside, before, latest⟩ :=
            inductionHypothesis restSorted
              (fun earlier isFirst other isOther => by
                rw [← Option.mem_some_iff.mp isFirst]
                exact firstBefore other isOther)
              inRest notInRest
          have firstNotAfter : (compare first.range earlier).isLE = true := by
            rcases isKept with isFirst | isLater
            · rw [← Option.mem_some_iff.mp isFirst]
              exact Std.ReflCmp.isLE_rfl
            · obtain ⟨other, otherKept, rfl⟩ := List.mem_map.mp isLater
              rw [firstBefore other ((dropOverlaps_sublist _ rest).subset otherKept)]
              rfl
          refine ⟨earlier, Or.inr ?_, startsInside, before, fun other otherKept otherBefore => ?_⟩
          · rcases isKept with isFirst | isLater
            · rw [← Option.mem_some_iff.mp isFirst]
              exact List.mem_cons_self
            · exact List.mem_cons_of_mem _ isLater
          · rcases List.mem_cons.mp otherKept with rfl | isLater
            · exact firstNotAfter
            · exact latest other isLater otherBefore

/-- Dropping overlaps from a sorted list is the greedy rule. -/
theorem greedySelection_dropOverlaps
    {tokens : List RangedToken}
    (fits : ∀ token ∈ tokens, token.range.Fits)
    (sorted : tokens.Pairwise fun left right => compare left.range right.range = .lt) :
    TokenRange.GreedySelection (· ∈ tokens.map range) ((dropOverlaps none tokens).map range) := by
  have isSublist := dropOverlaps_sublist none tokens
  have keptSorted := sorted.sublist isSublist
  have inOrder : InOrder (dropOverlaps none tokens) :=
    (dropOverlaps_inOrder (by simp) fits (by simp) sorted).2
  refine ⟨List.pairwise_map.mpr keptSorted, fun candidate => ⟨fun isKept => ?_, ?_⟩⟩
  · refine ⟨(isSublist.map range).subset isKept, fun last isLast => ?_⟩
    obtain ⟨token, tokenKept, rfl⟩ := List.mem_map.mp isKept
    obtain ⟨lastToken, lastKept, rfl⟩ := List.mem_map.mp isLast.isKept
    have precedes := inOrder.precedes keptSorted lastKept tokenKept isLast.before
    have sameLine := isLast.sameLine
    rw [TokenRange.precedes_iff_toNat] at precedes
    rw [← UInt32.toNat_inj] at sameLine
    omega
  · rintro ⟨isCandidate, ends⟩
    obtain ⟨token, member, rfl⟩ := List.mem_map.mp isCandidate
    by_contra notKept
    obtain ⟨earlier, isKept, startsInside, before, latest⟩ :=
      exists_last_of_dropped sorted (by simp) member
        fun isKept => notKept (List.mem_map_of_mem isKept)
    have earlierKept := isKept.resolve_left (by simp)
    obtain ⟨earlierToken, earlierMember, rfl⟩ := List.mem_map.mp earlierKept
    have earlierFits := fits earlierToken (isSublist.subset earlierMember)
    obtain ⟨sameLine, overlaps⟩ := (TokenRange.startsInside_iff earlierFits _).mp startsInside
    have apart := ends _ ⟨earlierKept, sameLine, before, fun other otherKept _ otherBefore => by
      obtain ⟨otherToken, otherMember, rfl⟩ := List.mem_map.mp otherKept
      exact latest otherToken otherMember otherBefore⟩
    omega

/-- Merging leaves the same ranges. -/
theorem mem_map_range_mergeRanges_iff (tokens : List RangedToken) (covered : TokenRange) :
    covered ∈ (mergeRanges tokens).map range ↔ covered ∈ tokens.map range := by
  rw [List.mem_map, List.mem_map]
  constructor
  · rintro ⟨token, member, rfl⟩
    exact exists_range_of_mem_mergeRanges member
  · intro hasRaw
    have isHeld : (tokens.foldl place ∅)[covered]?.isSome :=
      (isSome_getElem?_foldl_place_iff tokens ∅ covered).mpr (Or.inr hasRaw)
    obtain ⟨token, found⟩ := Option.isSome_iff_exists.mp isHeld
    have sameRange := keyed_foldl_place_empty tokens covered token found
    refine ⟨token, (mem_mergeRanges_iff tokens token).mpr ?_, sameRange⟩
    rw [sameRange]
    exact found

/-- The ranges of the normal form are the greedy selection from those that came in. -/
theorem greedySelection_normalize
    {tokens : List RangedToken}
    (fits : ∀ token ∈ tokens, token.range.Fits) :
    TokenRange.GreedySelection (· ∈ tokens.map range) ((normalize tokens).map range) := by
  have selects := greedySelection_dropOverlaps (mergeRanges_fit fits) (mergeRanges_sorted tokens)
  simp only [mem_map_range_mergeRanges_iff] at selects
  exact selects

end RangedToken

end Highlight
