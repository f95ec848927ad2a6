import Highlight.Proofs.Token.Normalize

/-!
Contract: the token that stands for a range.

Owns: what becomes of the tokens of one range when they are merged. The first of
those with the highest kind gives the kind and the module, and all of them give
their modifiers.
-/

set_option autoImplicit false

namespace Highlight

namespace RangedToken

/-- A range holds what its own tokens leave there, one after another. -/
theorem getElem?_foldl_place
    (tokens : List RangedToken)
    (start : RangeMap)
    (range : TokenRange) :
    (tokens.foldl place start)[range]? =
      (tokens.filter (·.range = range)).foldl
        (fun held token => some (joined held token)) start[range]? := by
  induction tokens generalizing start with
  | nil => rfl
  | cons token rest inductionHypothesis =>
      rw [List.foldl_cons, inductionHypothesis, getElem?_place]
      by_cases same : token.range = range <;> simp [same]

/-- The token stands for a list of tokens of its range. -/
structure JoinOf (tokens : List RangedToken) (token : RangedToken) : Prop where
  sameRange : ∀ raw ∈ tokens, raw.range = token.range
  chosen : ∃ before first after, tokens = before ++ first :: after ∧
    first.kind = token.kind ∧ first.definedIn = token.definedIn ∧
    (∀ earlier ∈ before, earlier.kind.rank < token.kind.rank) ∧
    ∀ later ∈ after, later.kind.rank ≤ token.kind.rank
  declaration : token.modifiers.declaration = true ↔
    ∃ raw ∈ tokens, raw.modifiers.declaration = true
  defaultLibrary : token.modifiers.defaultLibrary = true ↔
    ∃ raw ∈ tokens, raw.modifiers.defaultLibrary = true

namespace JoinOf

theorem singleton (token : RangedToken) : JoinOf [token] token where
  sameRange := by simp
  chosen := ⟨[], token, [], rfl, rfl, rfl, by simp, by simp⟩
  declaration := by simp
  defaultLibrary := by simp

variable {tokens : List RangedToken} {held : RangedToken} (joins : JoinOf tokens held)
include joins

theorem rank_le : ∀ raw ∈ tokens, raw.kind.rank ≤ held.kind.rank := by
  obtain ⟨before, first, after, rfl, sameKind, -, below, notAbove⟩ := joins.chosen
  intro raw member
  rcases List.mem_append.mp member with isBefore | isLater
  · exact Nat.le_of_lt (below raw isBefore)
  · rcases List.mem_cons.mp isLater with rfl | isAfter
    · exact Nat.le_of_eq (congrArg TokenKind.rank sameKind)
    · exact notAbove raw isAfter

/-- One more token of the range. -/
theorem absorb
    {token : RangedToken}
    (same : token.range = held.range) :
    JoinOf (tokens ++ [token]) (held.absorb token) := by
  have modifiersEq : (held.absorb token).modifiers = held.modifiers.union token.modifiers := by
    rw [RangedToken.absorb]
    split <;> rfl
  refine ⟨?_, ?_, ?_, ?_⟩
  · intro raw member
    rw [absorb_range]
    rcases List.mem_append.mp member with isHeld | isLast
    · exact joins.sameRange raw isHeld
    · rw [List.mem_singleton.mp isLast, same]
  · rw [RangedToken.absorb]
    split
    · next higher =>
        refine ⟨tokens, token, [], rfl, rfl, rfl, fun earlier member => ?_, by simp⟩
        exact Nat.lt_of_le_of_lt (joins.rank_le earlier member) higher
    · next notHigher =>
        obtain ⟨before, first, after, rfl, sameKind, sameModule, below, notAbove⟩ := joins.chosen
        refine ⟨before, first, after ++ [token], by simp, sameKind, sameModule, below, ?_⟩
        intro later member
        rcases List.mem_append.mp member with isAfter | isLast
        · exact notAbove later isAfter
        · rw [List.mem_singleton.mp isLast]
          exact Nat.le_of_not_lt notHigher
  · rw [modifiersEq, Modifiers.union, Bool.or_eq_true, joins.declaration]
    simp [or_and_right, exists_or]
  · rw [modifiersEq, Modifiers.union, Bool.or_eq_true, joins.defaultLibrary]
    simp [or_and_right, exists_or]

theorem foldl_joined
    {rest : List RangedToken}
    (same : ∀ token ∈ rest, token.range = held.range) :
    ∃ token, rest.foldl (fun held token => some (joined held token)) (some held) = some token ∧
      JoinOf (tokens ++ rest) token := by
  induction rest generalizing tokens held with
  | nil => exact ⟨held, rfl, by rwa [List.append_nil]⟩
  | cons token rest inductionHypothesis =>
      obtain ⟨sameFirst, sameRest⟩ := List.forall_mem_cons.mp same
      have next := joins.absorb sameFirst
      obtain ⟨last, isLast, joinsAll⟩ := inductionHypothesis next fun other member =>
        (sameRest other member).trans (absorb_range held token).symm
      rw [List.append_assoc] at joinsAll
      exact ⟨last, isLast, joinsAll⟩

end JoinOf

/-- After merging, the token of a range stands for all tokens that had this range. -/
theorem joinOf_of_mem_mergeRanges
    {tokens : List RangedToken}
    {token : RangedToken}
    (member : token ∈ mergeRanges tokens) :
    JoinOf (tokens.filter (·.range = token.range)) token := by
  rw [mem_mergeRanges_iff, getElem?_foldl_place, Std.ExtTreeMap.getElem?_empty] at member
  have ofRange : ∀ raw ∈ tokens.filter (·.range = token.range), raw.range = token.range :=
    fun raw isRaw => of_decide_eq_true (List.mem_filter.mp isRaw).2
  cases filtered : tokens.filter (·.range = token.range) with
  | nil =>
      rw [filtered] at member
      cases member
  | cons first rest =>
      rw [filtered] at member ofRange
      obtain ⟨sameFirst, sameRest⟩ := List.forall_mem_cons.mp ofRange
      obtain ⟨last, isLast, joinsAll⟩ := (JoinOf.singleton first).foldl_joined fun other inRest =>
        (sameRest other inRest).trans sameFirst.symm
      rw [List.foldl_cons, joined, isLast] at member
      rw [← Option.some.inj member]
      exact joinsAll

end RangedToken

end Highlight
