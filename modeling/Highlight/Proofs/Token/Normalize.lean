import Highlight.Proofs.Token.Order

/-!
Contract: what normalization makes of a token list.

Owns: the order of ranges in terms of their numbers, the map of tokens by range
with its keys and values, and the facts that callers need of the normal form:
its tokens are sorted and in order, and each has the range of a token that came
in.
-/

set_option autoImplicit false

namespace Highlight

namespace TokenRange

/-- The order of ranges: by line, then by start, then longer ones first. -/
theorem compare_eq_lt_iff (left right : TokenRange) :
    compare left right = .lt ↔
      left.line < right.line ∨
        left.line = right.line ∧
          (left.start < right.start ∨ left.start = right.start ∧ right.length < left.length) := by
  have unfolded :
      compare left right =
        (compare left.line right.line).then
          ((compare left.start right.start).then (compare right.length left.length)) := rfl
  rw [unfolded, Ordering.then_eq_lt, Ordering.then_eq_lt, Std.compare_eq_lt, Std.compare_eq_lt,
    Std.compare_eq_lt, Std.LawfulEqCmp.compare_eq_iff_eq, Std.LawfulEqCmp.compare_eq_iff_eq]

theorem line_le_of_compare_eq_lt
    {left right : TokenRange}
    (ordered : compare left right = .lt) :
    left.line ≤ right.line := by
  rw [compare_eq_lt_iff, UInt32.lt_iff_toNat_lt, ← UInt32.toNat_inj] at ordered
  rw [UInt32.le_iff_toNat_le]
  omega

end TokenRange

namespace RangedToken

/-! ### Tokens by range -/

@[simp] theorem absorb_range (held token : RangedToken) :
    (held.absorb token).range = held.range := by
  unfold absorb
  split <;> rfl

def joined (held : Option RangedToken) (token : RangedToken) : RangedToken :=
  match held with
  | none => token
  | some held => held.absorb token

theorem getElem?_place
    (tokens : RangeMap)
    (token : RangedToken)
    (range : TokenRange) :
    (place tokens token)[range]? =
      if token.range = range then some (joined tokens[range]? token) else tokens[range]? := by
  rw [place, Std.ExtTreeMap.getElem?_alter]
  simp only [Std.LawfulEqCmp.compare_eq_iff_eq]
  split
  · next same =>
      subst same
      cases tokens[token.range]? <;> rfl
  · rfl

/-- Every token of the map stands under its own range. -/
def Keyed (tokens : RangeMap) : Prop :=
  ∀ (range : TokenRange) (token : RangedToken), tokens[range]? = some token → token.range = range

theorem Keyed.place
    {tokens : RangeMap}
    (keyed : Keyed tokens)
    (token : RangedToken) :
    Keyed (place tokens token) := by
  intro range found isFound
  rw [getElem?_place] at isFound
  by_cases same : token.range = range
  · rw [if_pos same] at isFound
    cases held : tokens[range]? with
    | none =>
        rw [held] at isFound
        rw [← Option.some.inj isFound]
        exact same
    | some earlier =>
        rw [held] at isFound
        rw [← Option.some.inj isFound, joined, absorb_range]
        exact keyed range earlier held
  · rw [if_neg same] at isFound
    exact keyed range found isFound

theorem Keyed.foldl_place
    {start : RangeMap}
    (keyed : Keyed start)
    (tokens : List RangedToken) :
    Keyed (tokens.foldl RangedToken.place start) := by
  induction tokens generalizing start with
  | nil => exact keyed
  | cons token rest inductionHypothesis => exact inductionHypothesis (keyed.place token)

theorem keyed_foldl_place_empty (tokens : List RangedToken) :
    Keyed (tokens.foldl RangedToken.place ∅) := by
  apply Keyed.foldl_place
  intro range found isFound
  simp at isFound

/-- The ranges that hold a token are those held before and those of the tokens placed. -/
theorem isSome_getElem?_foldl_place_iff
    (tokens : List RangedToken)
    (start : RangeMap)
    (range : TokenRange) :
    (tokens.foldl place start)[range]?.isSome ↔
      start[range]?.isSome ∨ ∃ token ∈ tokens, token.range = range := by
  induction tokens generalizing start with
  | nil => simp
  | cons token rest inductionHypothesis =>
      rw [List.foldl_cons, inductionHypothesis, getElem?_place]
      by_cases same : token.range = range <;> simp [same]

/-! ### One token a range, in order of ranges -/

theorem mem_mergeRanges_iff (tokens : List RangedToken) (token : RangedToken) :
    token ∈ mergeRanges tokens ↔ (tokens.foldl place ∅)[token.range]? = some token := by
  have keyed := keyed_foldl_place_empty tokens
  rw [mergeRanges, List.mem_map]
  constructor
  · rintro ⟨⟨range, found⟩, member, rfl⟩
    have isFound := Std.ExtTreeMap.mem_toList_iff_getElem?_eq_some.mp member
    rw [keyed range found isFound]
    exact isFound
  · intro isFound
    exact ⟨(token.range, token), Std.ExtTreeMap.mem_toList_iff_getElem?_eq_some.mpr isFound, rfl⟩

theorem exists_range_of_mem_mergeRanges
    {tokens : List RangedToken}
    {token : RangedToken}
    (member : token ∈ mergeRanges tokens) :
    ∃ raw ∈ tokens, raw.range = token.range := by
  have isFound := (mem_mergeRanges_iff tokens token).mp member
  have held : (tokens.foldl place ∅)[token.range]?.isSome := by
    rw [isFound]
    rfl
  rw [isSome_getElem?_foldl_place_iff] at held
  simpa using held

theorem mergeRanges_fit
    {tokens : List RangedToken}
    (fits : ∀ token ∈ tokens, token.range.Fits) :
    ∀ token ∈ mergeRanges tokens, token.range.Fits := by
  intro token member
  obtain ⟨raw, rawMember, sameRange⟩ := exists_range_of_mem_mergeRanges member
  rw [← sameRange]
  exact fits raw rawMember

theorem mergeRanges_sorted (tokens : List RangedToken) :
    (mergeRanges tokens).Pairwise fun left right => compare left.range right.range = .lt := by
  have keyed := keyed_foldl_place_empty tokens
  rw [mergeRanges, List.pairwise_map]
  refine List.Pairwise.imp_of_mem ?_ Std.ExtTreeMap.ordered_keys_toList
  intro left right leftMember rightMember ordered
  rw [keyed _ _ (Std.ExtTreeMap.mem_toList_iff_getElem?_eq_some.mp leftMember),
    keyed _ _ (Std.ExtTreeMap.mem_toList_iff_getElem?_eq_some.mp rightMember)]
  exact ordered

/-! ### Without overlaps -/

theorem dropOverlaps_sublist (last : Option TokenRange) (tokens : List RangedToken) :
    List.Sublist (dropOverlaps last tokens) tokens := by
  induction tokens generalizing last with
  | nil => exact List.Sublist.slnil
  | cons token rest inductionHypothesis =>
      rw [dropOverlaps]
      split
      · exact (inductionHypothesis last).cons token
      · exact (inductionHypothesis (some token.range)).cons_cons token

/-- In a sorted list, no line goes back behind that of the first token. -/
theorem line_le_of_sorted_cons
    {token : RangedToken}
    {rest : List RangedToken}
    (tokenFirst : ∀ other ∈ rest, compare token.range other.range = .lt) :
    ∀ earlier ∈ some token.range, ∀ other ∈ rest, earlier.line ≤ other.range.line := by
  intro earlier isToken other member
  rw [← Option.mem_some_iff.mp isToken]
  exact TokenRange.line_le_of_compare_eq_lt (tokenFirst other member)

/-- What is kept of a sorted list is in order and comes after the range kept last. The lines never
go back, so a token that does not start inside the range before it starts after it. -/
theorem dropOverlaps_inOrder
    {last : Option TokenRange}
    {tokens : List RangedToken}
    (lastFits : ∀ earlier ∈ last, earlier.Fits)
    (fits : ∀ token ∈ tokens, token.range.Fits)
    (lastBefore : ∀ earlier ∈ last, ∀ token ∈ tokens, earlier.line ≤ token.range.line)
    (sorted : tokens.Pairwise fun left right => compare left.range right.range = .lt) :
    AllAfter last (dropOverlaps last tokens) ∧ InOrder (dropOverlaps last tokens) := by
  induction tokens generalizing last with
  | nil => exact ⟨fun _ _ _ member => absurd member List.not_mem_nil, List.Pairwise.nil⟩
  | cons token rest inductionHypothesis =>
      obtain ⟨tokenFits, restFits⟩ := List.forall_mem_cons.mp fits
      obtain ⟨tokenFirst, restSorted⟩ := List.pairwise_cons.mp sorted
      rw [dropOverlaps]
      split
      · exact inductionHypothesis lastFits restFits
          (fun earlier isLast other member =>
            lastBefore earlier isLast other (List.mem_cons_of_mem _ member))
          restSorted
      · next outside =>
          have kept := inductionHypothesis (by simpa using tokenFits) restFits
            (line_le_of_sorted_cons tokenFirst) restSorted
          refine ⟨(allAfter_cons_iff last kept.1).mpr ?_, (inOrder_cons_iff _ _).mpr kept⟩
          intro earlier isLast
          rw [Option.mem_def.mp isLast, Option.any_some, Bool.not_eq_true] at outside
          exact TokenRange.precedes_of_not_startsInside (lastFits earlier isLast)
            (lastBefore earlier isLast token List.mem_cons_self) outside

/-! ### The normal form -/

theorem exists_range_of_mem_normalize
    {tokens : List RangedToken}
    {token : RangedToken}
    (member : token ∈ normalize tokens) :
    ∃ raw ∈ tokens, raw.range = token.range :=
  exists_range_of_mem_mergeRanges ((dropOverlaps_sublist none _).subset member)

theorem normalize_fit
    {tokens : List RangedToken}
    (fits : ∀ token ∈ tokens, token.range.Fits) :
    ∀ token ∈ normalize tokens, token.range.Fits :=
  fun token member => mergeRanges_fit fits token ((dropOverlaps_sublist none _).subset member)

theorem normalize_sorted (tokens : List RangedToken) :
    (normalize tokens).Pairwise fun left right => compare left.range right.range = .lt :=
  (mergeRanges_sorted tokens).sublist (dropOverlaps_sublist none _)

/-- The normal form of tokens that fit is in order. -/
theorem normalize_inOrder
    {tokens : List RangedToken}
    (fits : ∀ token ∈ tokens, token.range.Fits) :
    InOrder (normalize tokens) :=
  (dropOverlaps_inOrder (by simp) (mergeRanges_fit fits) (by simp) (mergeRanges_sorted tokens)).2

end RangedToken

end Highlight
