import Highlight.Proofs.Token.Kind
import Highlight.Proofs.Token.Merge
import Highlight.Proofs.Token.Selection

/-!
Contract: the normal form of a token list is canonical.

Owns: the lists in normal form, stated without reference to normalization, that
normalization leaves them as they are, and that it does not depend on the order
of the tokens. Only the module of a token can: where tokens of one range and one
kind come from different modules, the first of them gives its own.

Does not own: which ranges are kept. The greedy rule says that.
-/

set_option autoImplicit false

namespace Highlight

namespace TokenRange

/-- The range starts on an earlier line, or on the same line at an earlier column. -/
def StartsBefore (earlier later : TokenRange) : Prop :=
  earlier.line < later.line ∨ earlier.line = later.line ∧ earlier.start < later.start

instance (earlier later : TokenRange) : Decidable (earlier.StartsBefore later) :=
  inferInstanceAs (Decidable (_ ∨ _))

theorem StartsBefore.compare_eq_lt
    {earlier later : TokenRange}
    (starts : earlier.StartsBefore later) :
    compare earlier later = .lt := by
  rw [compare_eq_lt_iff]
  rcases starts with lines | ⟨sameLine, columns⟩
  · exact Or.inl lines
  · exact Or.inr ⟨sameLine, Or.inl columns⟩

/-- Of two ranges with one start, the longer one comes first and is not empty, so the other starts
inside it. -/
theorem Precedes.startsBefore
    {earlier later : TokenRange}
    (precedes : earlier.Precedes later)
    (ordered : compare earlier later = .lt) :
    earlier.StartsBefore later := by
  rw [compare_eq_lt_iff] at ordered
  rcases ordered with lines | ⟨sameLine, columns | ⟨sameStart, longer⟩⟩
  · exact Or.inl lines
  · exact Or.inr ⟨sameLine, columns⟩
  · rw [precedes_iff_toNat, sameLine, sameStart] at precedes
    rw [UInt32.lt_iff_toNat_lt] at longer
    omega

theorem Precedes.startsInside_eq_false
    {earlier later : TokenRange}
    (precedes : earlier.Precedes later)
    (fits : earlier.Fits) :
    later.startsInside earlier = false := by
  rw [Bool.eq_false_iff, Ne, startsInside_iff fits, ← UInt32.toNat_inj]
  rw [precedes_iff_toNat] at precedes
  omega

end TokenRange

namespace RangedToken

/-! ### Lists in normal form -/

/-- Tokens start one after another, at different places, and none before an earlier one has
ended. -/
structure IsNormal (tokens : List RangedToken) : Prop where
  startsIncrease : tokens.Pairwise fun earlier later => earlier.range.StartsBefore later.range
  apart : InOrder tokens

instance (tokens : List RangedToken) : Decidable (IsNormal tokens) :=
  decidable_of_iff
    (tokens.Pairwise (fun earlier later => earlier.range.StartsBefore later.range) ∧
      InOrder tokens)
    ⟨fun both => ⟨both.1, both.2⟩, fun normal => ⟨normal.startsIncrease, normal.apart⟩⟩

theorem IsNormal.sorted
    {tokens : List RangedToken}
    (normal : IsNormal tokens) :
    tokens.Pairwise fun left right => compare left.range right.range = .lt :=
  normal.startsIncrease.imp TokenRange.StartsBefore.compare_eq_lt

theorem isNormal_normalize
    {tokens : List RangedToken}
    (fits : ∀ token ∈ tokens, token.range.Fits) :
    IsNormal (normalize tokens) := by
  have inOrder := normalize_inOrder fits
  refine ⟨?_, inOrder⟩
  refine ((normalize_sorted tokens).and inOrder).imp ?_
  rintro earlier later ⟨ordered, precedes⟩
  exact precedes.startsBefore ordered

/-! ### Nothing is done to a list in normal form -/

/-- In a sorted list, a token is the only one of its range. -/
theorem filter_range_of_sorted
    {tokens : List RangedToken}
    (sorted : tokens.Pairwise fun left right => compare left.range right.range = .lt)
    {token : RangedToken}
    (member : token ∈ tokens) :
    tokens.filter (·.range = token.range) = [token] := by
  induction tokens with
  | nil => cases member
  | cons first rest inductionHypothesis =>
      obtain ⟨firstBefore, restSorted⟩ := List.pairwise_cons.mp sorted
      have apart (other : RangedToken) (inRest : other ∈ rest) : first.range ≠ other.range :=
        TokenRange.ne_of_compare_eq_lt (firstBefore other inRest)
      rcases List.mem_cons.mp member with rfl | inRest
      · have noneLeft : rest.filter (·.range = token.range) = [] := by
          rw [List.filter_eq_nil_iff]
          intro other otherInRest same
          exact apart other otherInRest (of_decide_eq_true same).symm
        rw [List.filter_cons_of_pos (by simp), noneLeft]
      · rw [List.filter_cons_of_neg (by simpa using apart token inRest)]
        exact inductionHypothesis restSorted inRest

theorem mergeRanges_of_sorted
    {tokens : List RangedToken}
    (sorted : tokens.Pairwise fun left right => compare left.range right.range = .lt) :
    mergeRanges tokens = tokens := by
  have kept (token : RangedToken) (member : token ∈ tokens) : token ∈ mergeRanges tokens := by
    rw [mem_mergeRanges_iff, getElem?_foldl_place, filter_range_of_sorted sorted member,
      Std.ExtTreeMap.getElem?_empty]
    rfl
  refine eq_of_sorted_of_mem_iff (mergeRanges_sorted tokens) sorted fun token => ⟨?_, kept token⟩
  intro merged
  obtain ⟨raw, rawMember, sameRange⟩ := exists_range_of_mem_mergeRanges merged
  have rawMerged := kept raw rawMember
  -- both are what the map holds at the range
  rw [mem_mergeRanges_iff] at merged rawMerged
  rw [sameRange, merged] at rawMerged
  rw [Option.some.inj rawMerged]
  exact rawMember

theorem dropOverlaps_of_inOrder
    {last : Option TokenRange}
    {tokens : List RangedToken}
    (lastFits : ∀ earlier ∈ last, earlier.Fits)
    (fits : ∀ token ∈ tokens, token.range.Fits)
    (after : AllAfter last tokens)
    (inOrder : InOrder tokens) :
    dropOverlaps last tokens = tokens := by
  induction tokens generalizing last with
  | nil => rfl
  | cons token rest inductionHypothesis =>
      obtain ⟨tokenFits, restFits⟩ := List.forall_mem_cons.mp fits
      obtain ⟨restAfter, restInOrder⟩ := (inOrder_cons_iff token rest).mp inOrder
      have outside : last.any token.range.startsInside = false := by
        cases last with
        | none => rfl
        | some earlier =>
            have precedes := after earlier rfl token List.mem_cons_self
            exact precedes.startsInside_eq_false (lastFits earlier rfl)
      rw [dropOverlaps, outside, if_neg Bool.false_ne_true,
        inductionHypothesis (by simpa using tokenFits) restFits restAfter restInOrder]

theorem normalize_of_isNormal
    {tokens : List RangedToken}
    (fits : ∀ token ∈ tokens, token.range.Fits)
    (normal : IsNormal tokens) :
    normalize tokens = tokens := by
  rw [normalize, mergeRanges_of_sorted normal.sorted]
  exact dropOverlaps_of_inOrder (by simp) fits (by simp [AllAfter]) normal.apart

/-! ### The order of the tokens does not matter -/

def withoutModule (token : RangedToken) : RangedToken :=
  { token with definedIn := none }

/-- Tokens of one range and one kind come from one module. -/
def ModulesAgree (tokens : List RangedToken) : Prop :=
  ∀ left ∈ tokens, ∀ right ∈ tokens, left.range = right.range → left.kind = right.kind →
    left.definedIn = right.definedIn

instance (tokens : List RangedToken) : Decidable (ModulesAgree tokens) :=
  inferInstanceAs (Decidable (∀ left ∈ tokens, ∀ right ∈ tokens, _ → _ → _))

namespace JoinOf

variable {left right : List RangedToken} {token other : RangedToken}

theorem exists_chosen (joins : JoinOf left token) :
    ∃ raw ∈ left, raw.kind = token.kind ∧ raw.definedIn = token.definedIn := by
  obtain ⟨before, first, after, rfl, sameKind, sameModule, -, -⟩ := joins.chosen
  exact ⟨first, by simp, sameKind, sameModule⟩

variable
  (joins : JoinOf left token)
  (otherJoins : JoinOf right other)
  (same : ∀ raw, raw ∈ left ↔ raw ∈ right)
include joins otherJoins same

theorem kind_eq : token.kind = other.kind := by
  obtain ⟨raw, isRaw, rawKind, -⟩ := joins.exists_chosen
  obtain ⟨otherRaw, isOtherRaw, otherKind, -⟩ := otherJoins.exists_chosen
  apply TokenKind.rank_inj
  apply Nat.le_antisymm
  · rw [← rawKind]
    exact otherJoins.rank_le raw ((same raw).mp isRaw)
  · rw [← otherKind]
    exact joins.rank_le otherRaw ((same otherRaw).mpr isOtherRaw)

theorem modifiers_eq : token.modifiers = other.modifiers := by
  have declarations : token.modifiers.declaration = other.modifiers.declaration := by
    rw [Bool.eq_iff_iff, joins.declaration, otherJoins.declaration]
    simp only [same]
  have libraries : token.modifiers.defaultLibrary = other.modifiers.defaultLibrary := by
    rw [Bool.eq_iff_iff, joins.defaultLibrary, otherJoins.defaultLibrary]
    simp only [same]
  cases isToken : token.modifiers
  cases isOther : other.modifiers
  rw [isToken, isOther] at declarations libraries
  rw [Modifiers.mk.injEq]
  exact ⟨declarations, libraries⟩

theorem withoutModule_eq (sameRange : token.range = other.range) :
    token.withoutModule = other.withoutModule := by
  rw [withoutModule, withoutModule, sameRange, joins.kind_eq otherJoins same,
    joins.modifiers_eq otherJoins same]

/-- Whichever token is chosen, it brings the same module. -/
theorem eq_of_modulesAgree
    (agree : ModulesAgree left)
    (sameRange : token.range = other.range) :
    token = other := by
  have sameKind := joins.kind_eq otherJoins same
  have sameModifiers := joins.modifiers_eq otherJoins same
  obtain ⟨raw, isRaw, rawKind, rawModule⟩ := joins.exists_chosen
  obtain ⟨otherRaw, isOtherRaw, otherKind, otherModule⟩ := otherJoins.exists_chosen
  have isOtherRawToo := (same otherRaw).mpr isOtherRaw
  have rawRanges : raw.range = otherRaw.range :=
    (joins.sameRange raw isRaw).trans (joins.sameRange otherRaw isOtherRawToo).symm
  have rawKinds : raw.kind = otherRaw.kind := by rw [rawKind, otherKind, sameKind]
  have sameModule : token.definedIn = other.definedIn := by
    rw [← rawModule, ← otherModule]
    exact agree raw isRaw otherRaw isOtherRawToo rawRanges rawKinds
  cases token
  cases other
  rw [RangedToken.mk.injEq]
  exact ⟨sameRange, sameKind, sameModifiers, sameModule⟩

end JoinOf

/-- Lists with the same tokens have, at each range, tokens that stand for the same ones. -/
theorem exists_joinOf_of_mem_iff
    {left right : List RangedToken}
    (same : ∀ raw, raw ∈ left ↔ raw ∈ right)
    {token : RangedToken}
    (member : token ∈ mergeRanges left) :
    ∃ other ∈ mergeRanges right, token.range = other.range ∧
      JoinOf (left.filter (·.range = token.range)) token ∧
      JoinOf (right.filter (·.range = token.range)) other ∧
      ∀ raw, raw ∈ left.filter (·.range = token.range) ↔
        raw ∈ right.filter (·.range = token.range) := by
  obtain ⟨raw, isRaw, rawRange⟩ := exists_range_of_mem_mergeRanges member
  have covered : token.range ∈ (mergeRanges right).map range := by
    rw [mem_map_range_mergeRanges_iff, List.mem_map]
    exact ⟨raw, (same raw).mp isRaw, rawRange⟩
  obtain ⟨other, isOther, sameRange⟩ := List.mem_map.mp covered
  have otherJoins := joinOf_of_mem_mergeRanges isOther
  rw [sameRange] at otherJoins
  refine ⟨other, isOther, sameRange.symm, joinOf_of_mem_mergeRanges member, otherJoins, ?_⟩
  intro candidate
  rw [List.mem_filter, List.mem_filter, same]

theorem mem_map_withoutModule_of_mem_iff
    {left right : List RangedToken}
    (same : ∀ raw, raw ∈ left ↔ raw ∈ right)
    {shown : RangedToken}
    (member : shown ∈ (mergeRanges left).map withoutModule) :
    shown ∈ (mergeRanges right).map withoutModule := by
  obtain ⟨token, isToken, rfl⟩ := List.mem_map.mp member
  obtain ⟨other, isOther, sameRange, joins, otherJoins, sameOfRange⟩ :=
    exists_joinOf_of_mem_iff same isToken
  rw [joins.withoutModule_eq otherJoins sameOfRange sameRange]
  exact List.mem_map_of_mem isOther

theorem mergeRanges_withoutModule_eq
    {left right : List RangedToken}
    (same : ∀ raw, raw ∈ left ↔ raw ∈ right) :
    (mergeRanges left).map withoutModule = (mergeRanges right).map withoutModule :=
  eq_of_sorted_of_mem_iff (List.pairwise_map.mpr (mergeRanges_sorted left))
    (List.pairwise_map.mpr (mergeRanges_sorted right)) fun _ =>
      ⟨mem_map_withoutModule_of_mem_iff same,
        mem_map_withoutModule_of_mem_iff fun raw => (same raw).symm⟩

theorem ModulesAgree.mem_mergeRanges
    {left right : List RangedToken}
    (agree : ModulesAgree left)
    (same : ∀ raw, raw ∈ left ↔ raw ∈ right)
    {token : RangedToken}
    (member : token ∈ mergeRanges left) :
    token ∈ mergeRanges right := by
  obtain ⟨other, isOther, sameRange, joins, otherJoins, sameOfRange⟩ :=
    exists_joinOf_of_mem_iff same member
  have agreeOfRange : ModulesAgree (left.filter (·.range = token.range)) :=
    fun first isFirst second isSecond =>
      agree first (List.mem_filter.mp isFirst).1 second (List.mem_filter.mp isSecond).1
  rw [joins.eq_of_modulesAgree otherJoins sameOfRange agreeOfRange sameRange]
  exact isOther

theorem ModulesAgree.mergeRanges_eq
    {left right : List RangedToken}
    (agree : ModulesAgree left)
    (same : ∀ raw, raw ∈ left ↔ raw ∈ right) :
    mergeRanges left = mergeRanges right := by
  have agreeToo : ModulesAgree right := by
    simpa only [ModulesAgree, same] using agree
  exact eq_of_sorted_of_mem_iff (mergeRanges_sorted left) (mergeRanges_sorted right) fun _ =>
    ⟨agree.mem_mergeRanges same, agreeToo.mem_mergeRanges fun raw => (same raw).symm⟩

/-- Overlaps are told from the ranges alone. -/
theorem dropOverlaps_map_withoutModule
    (last : Option TokenRange)
    (tokens : List RangedToken) :
    dropOverlaps last (tokens.map withoutModule) = (dropOverlaps last tokens).map withoutModule := by
  induction tokens generalizing last with
  | nil => rfl
  | cons token rest inductionHypothesis =>
      have sameRange : token.withoutModule.range = token.range := rfl
      rw [List.map_cons, dropOverlaps, dropOverlaps, sameRange]
      split
      · exact inductionHypothesis last
      · rw [List.map_cons, inductionHypothesis]

theorem normalize_withoutModule_eq
    {left right : List RangedToken}
    (same : ∀ raw, raw ∈ left ↔ raw ∈ right) :
    (normalize left).map withoutModule = (normalize right).map withoutModule := by
  rw [normalize, normalize, ← dropOverlaps_map_withoutModule, ← dropOverlaps_map_withoutModule,
    mergeRanges_withoutModule_eq same]

/-- The normal form is canonical. The tokens of a list that is brought to it start at increasing
places and do not overlap; a list of that form stays as it is, so doing it twice is doing it once;
and a list in another order comes to the same form, up to the modules of its tokens, and with them
where tokens of one range and kind agree on theirs. -/
theorem normalize_canonical
    (tokens : List RangedToken)
    (fits : ∀ token ∈ tokens, token.range.Fits) :
    IsNormal (normalize tokens) ∧
      (IsNormal tokens → normalize tokens = tokens) ∧
      normalize (normalize tokens) = normalize tokens ∧
      ∀ permuted : List RangedToken, tokens.Perm permuted →
        (normalize tokens).map withoutModule = (normalize permuted).map withoutModule ∧
          (ModulesAgree tokens → normalize tokens = normalize permuted) := by
  have normal := isNormal_normalize fits
  refine ⟨normal, normalize_of_isNormal fits, normalize_of_isNormal (normalize_fit fits) normal,
    fun permuted permutation => ⟨?_, fun agree => ?_⟩⟩
  · exact normalize_withoutModule_eq fun _ => permutation.mem_iff
  · rw [normalize, normalize, agree.mergeRanges_eq fun _ => permutation.mem_iff]

/-- Tokens out of order. Two have one range, one is empty and starts with them, one starts inside
them, and one is empty and starts where they end. -/
def crowdedTokens : List RangedToken :=
  [⟨⟨0, 7, 0⟩, .var, Modifiers.none, none⟩,
    ⟨⟨0, 5, 2⟩, .var, Modifiers.defaultLibraryOnly, some "N"⟩,
    ⟨⟨0, 5, 0⟩, .function, Modifiers.none, none⟩,
    ⟨⟨0, 6, 4⟩, .typeClass, Modifiers.none, none⟩,
    ⟨⟨0, 5, 2⟩, .function, Modifiers.declarationOnly, some "M"⟩]

def settledTokens : List RangedToken :=
  [⟨⟨0, 5, 2⟩, .function, ⟨true, true⟩, some "M"⟩, ⟨⟨0, 7, 0⟩, .var, Modifiers.none, none⟩]

def tiedTokens : List RangedToken :=
  [⟨⟨0, 0, 1⟩, .var, Modifiers.none, some "M"⟩, ⟨⟨0, 0, 1⟩, .var, Modifiers.none, some "N"⟩]

/-- The crowded tokens settle to the same list from behind. Of the tied ones the first stays, with
its module, and so the order shows there and nowhere else. -/
theorem normalize_canonical_crowded :
    (∀ token ∈ crowdedTokens, token.range.Fits) ∧
      normalize crowdedTokens = settledTokens ∧
      IsNormal settledTokens ∧
      normalize settledTokens = settledTokens ∧
      ModulesAgree crowdedTokens ∧
      normalize crowdedTokens.reverse = settledTokens ∧
      ¬ ModulesAgree tiedTokens ∧
      normalize tiedTokens ≠ normalize tiedTokens.reverse ∧
      (normalize tiedTokens).map withoutModule = (normalize tiedTokens.reverse).map withoutModule := by
  have crowdedFit : ∀ token ∈ crowdedTokens, token.range.Fits := by decide
  have settledFit : ∀ token ∈ settledTokens, token.range.Fits := by decide
  have tiedFit : ∀ token ∈ tiedTokens, token.range.Fits := by decide
  have agree : ModulesAgree crowdedTokens := by decide
  have settles : normalize crowdedTokens = settledTokens := by rfl
  have isNormal : IsNormal settledTokens := by decide
  obtain ⟨-, -, -, permuted⟩ := normalize_canonical crowdedTokens crowdedFit
  obtain ⟨-, stays, -, -⟩ := normalize_canonical settledTokens settledFit
  obtain ⟨-, -, -, tiedPermuted⟩ := normalize_canonical tiedTokens tiedFit
  refine ⟨crowdedFit, settles, isNormal, stays isNormal, agree, ?_, by decide, ?_, ?_⟩
  · rw [← (permuted _ (List.reverse_perm _).symm).2 agree, settles]
  · decide
  · exact (tiedPermuted _ (List.reverse_perm _).symm).1

end RangedToken

end Highlight
