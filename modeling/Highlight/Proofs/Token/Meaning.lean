import Highlight.Proofs.Token.Collect
import Highlight.Proofs.Token.Kind
import Highlight.Proofs.Token.Merge
import Highlight.Proofs.Token.Selection
import Mathlib.Logic.ExistsUnique

/-!
Contract: what the tokens of a document say.

Owns: the meaning of a token, stated over what occurs in the tree and where the
text has it: its kind is the highest of the identifiers that stand at its range,
its module that of the first of these identifiers, and it is a declaration if
one of the occurrences binds. The ranges are the greedy selection from all
ranges at which something stands.
-/

set_option autoImplicit false

namespace Highlight

open Highlight.Text

namespace Occurs

variable (occurs : Occurs) (names : NameMap) (text : List Char)

/-- An occurrence of an identifier is found in the text, at a range. -/
def Located (identifier : Identifier) (occurrence : Occurrence) (range : TokenRange) : Prop :=
  occurs identifier occurrence ∧
    locate (LineTable.ofText text) occurrence.span identifier.spelling.toList = some range

def StandsAt (identifier : Identifier) (range : TokenRange) : Prop :=
  ∃ occurrence, occurs.Located text identifier occurrence range

/-- What a token says of the identifiers that stand at its range. -/
structure Means (token : RangedToken) : Prop where
  highest : ∀ identifier kind, occurs.StandsAt text identifier token.range →
    occurs.HasKind names identifier kind → kind.rank ≤ token.kind.rank
  first : ∃ identifier, occurs.StandsAt text identifier token.range ∧
    occurs.HasKind names identifier token.kind ∧ identifier.definedIn = token.definedIn ∧
    ∀ other, occurs.StandsAt text other token.range → occurs.HasKind names other token.kind →
      (compare identifier other).isLE = true
  declaration : token.modifiers.declaration = true ↔
    ∃ identifier occurrence, occurs.Located text identifier occurrence token.range ∧
      ∃ context ∈ occurrence.details.contexts, context ∉ [.use, .imported, .exported]
  defaultLibrary : token.modifiers.defaultLibrary = false

end Occurs

namespace Occurrence

theorem declaration_modifiers_iff (occurrence : Occurrence) :
    occurrence.modifiers.declaration = true ↔
      ∃ context ∈ occurrence.details.contexts, context ∉ [.use, .imported, .exported] := by
  simp only [← Context.isBinding_iff]
  rw [← Details.isBinding_iff, modifiers]
  split
  · next isBinding => simp [Modifiers.declarationOnly, isBinding]
  · next notBinding => simp [Modifiers.none, notBinding]

theorem defaultLibrary_modifiers (occurrence : Occurrence) :
    occurrence.modifiers.defaultLibrary = false := by
  rw [modifiers]
  split <;> rfl

end Occurrence

namespace Node

variable (root : Node) (names : NameMap) (text : List Char)

def taggedTokens : List (Identifier × RangedToken) :=
  root.references.toList.flatMap fun (identifier, occurrences) =>
    (identifier.tokens (LineTable.ofText text) names occurrences).map (Prod.mk identifier)

theorem map_snd_taggedTokens :
    (root.taggedTokens names text).map Prod.snd = root.rawTokens names text := by
  rw [taggedTokens, rawTokens, List.map_flatMap]
  simp [Function.comp_def]

theorem taggedTokens_sorted :
    (root.taggedTokens names text).Pairwise fun left right =>
      (compare left.1 right.1).isLE = true := by
  rw [taggedTokens, List.pairwise_flatMap]
  refine ⟨fun entry _ => ?_, ?_⟩
  · rw [List.pairwise_map]
    exact List.pairwise_of_forall fun _ _ => Std.ReflCmp.isLE_rfl
  · refine Std.ExtTreeMap.ordered_keys_toList.imp fun ordered left isLeft right isRight => ?_
    obtain ⟨_, -, rfl⟩ := List.mem_map.mp isLeft
    obtain ⟨_, -, rfl⟩ := List.mem_map.mp isRight
    rw [ordered]
    rfl

/-- The tokens before normalization are the occurrences that the text confirms. -/
theorem mem_taggedTokens_iff (identifier : Identifier) (token : RangedToken) :
    (identifier, token) ∈ root.taggedTokens names text ↔
      ∃ occurrence, root.Holds.Located text identifier occurrence token.range ∧
        root.Holds.HasKind names identifier token.kind ∧
        token.modifiers = occurrence.modifiers ∧ token.definedIn = identifier.definedIn := by
  have isEntry (found : List Occurrence) (occurrence : Occurrence) :
      (identifier, found) ∈ root.references.toList ∧ occurrence ∈ found ↔
        root.Holds identifier occurrence ∧ found = root.references.listed identifier := by
    rw [Std.ExtTreeMap.mem_toList_iff_getElem?_eq_some, holds_iff_mem_listed,
      ReferenceMap.listed]
    cases root.references[identifier]? <;> grind
  rw [taggedTokens, List.mem_flatMap]
  constructor
  · rintro ⟨⟨other, found⟩, entry, tagged⟩
    obtain ⟨_, inEntry, tagEq⟩ := List.mem_map.mp tagged
    obtain ⟨rfl, rfl⟩ := Prod.mk.inj tagEq
    obtain ⟨occurrence, inFound, isToken⟩ := List.mem_filterMap.mp inEntry
    obtain ⟨range, located, rfl⟩ := Option.map_eq_some_iff.mp isToken
    obtain ⟨holds, rfl⟩ := (isEntry found occurrence).mp ⟨entry, inFound⟩
    exact ⟨occurrence, ⟨holds, located⟩, (root.hasKind_iff names _ _).mpr rfl, rfl, rfl⟩
  · rintro ⟨occurrence, ⟨holds, located⟩, hasKind, modifiersEq, moduleEq⟩
    obtain ⟨entry, inFound⟩ := (isEntry _ occurrence).mpr ⟨holds, rfl⟩
    refine ⟨_, entry, List.mem_map.mpr ⟨token, ?_, rfl⟩⟩
    refine List.mem_filterMap.mpr ⟨occurrence, inFound, ?_⟩
    rw [located, Option.map_some, (root.hasKind_iff names _ _).mp hasKind, ← modifiersEq,
      ← moduleEq]

/-- The ranges of the tokens before normalization are those at which something stands. -/
theorem mem_map_range_rawTokens_iff (range : TokenRange) :
    range ∈ (root.rawTokens names text).map RangedToken.range ↔
      ∃ identifier, root.Holds.StandsAt text identifier range := by
  rw [← map_snd_taggedTokens, List.map_map, List.mem_map]
  constructor
  · rintro ⟨⟨identifier, token⟩, member, rfl⟩
    obtain ⟨occurrence, located, -⟩ := (root.mem_taggedTokens_iff names text _ _).mp member
    exact ⟨identifier, occurrence, located⟩
  · rintro ⟨identifier, occurrence, located⟩
    exact ⟨(identifier, ⟨range, _, _, _⟩), (root.mem_taggedTokens_iff names text _ _).mpr
      ⟨occurrence, located, (root.hasKind_iff names _ _).mpr rfl, rfl, rfl⟩, rfl⟩

/-- The tokens of one range before normalization, with the identifiers that stand there, in the
order of identifiers. -/
structure TokensAt (range : TokenRange) (tagged : List (Identifier × RangedToken)) : Prop where
  sorted : tagged.Pairwise fun left right => (compare left.1 right.1).isLE = true
  mem_iff : ∀ identifier token, (identifier, token) ∈ tagged ↔
    token.range = range ∧ ∃ occurrence, root.Holds.Located text identifier occurrence range ∧
      root.Holds.HasKind names identifier token.kind ∧
      token.modifiers = occurrence.modifiers ∧ token.definedIn = identifier.definedIn

theorem exists_tokensAt (range : TokenRange) :
    ∃ tagged, tagged.map Prod.snd = (root.rawTokens names text).filter (·.range = range) ∧
      root.TokensAt names text range tagged := by
  refine ⟨(root.taggedTokens names text).filter (·.2.range = range), ?_, ?_, ?_⟩
  · rw [← map_snd_taggedTokens, List.filter_map]
    rfl
  · exact (root.taggedTokens_sorted names text).filter _
  · intro identifier token
    rw [List.mem_filter, decide_eq_true_eq, mem_taggedTokens_iff, and_comm]
    refine and_congr_right fun sameRange => ?_
    rw [sameRange]

namespace TokensAt

variable {root names text} {token : RangedToken} {tagged : List (Identifier × RangedToken)}
  (tokensAt : root.TokensAt names text token.range tagged)
include tokensAt

theorem mem_of_located
    {identifier : Identifier}
    {occurrence : Occurrence}
    {kind : TokenKind}
    (located : root.Holds.Located text identifier occurrence token.range)
    (hasKind : root.Holds.HasKind names identifier kind) :
    (identifier, ⟨token.range, kind, occurrence.modifiers, identifier.definedIn⟩) ∈ tagged :=
  (tokensAt.mem_iff _ _).mpr ⟨rfl, occurrence, located, hasKind, rfl, rfl⟩

variable (joins : RangedToken.JoinOf (tagged.map Prod.snd) token)
include joins

/-- The first identifier of the highest kind gives the kind and the module. An identifier of this
kind has its token where the first one stands, or later. -/
theorem exists_first :
    ∃ identifier, root.Holds.StandsAt text identifier token.range ∧
      root.Holds.HasKind names identifier token.kind ∧ identifier.definedIn = token.definedIn ∧
      ∀ other, root.Holds.StandsAt text other token.range →
        root.Holds.HasKind names other token.kind → (compare identifier other).isLE = true := by
  obtain ⟨before, first, after, split, sameKind, sameModule, below, -⟩ := joins.chosen
  obtain ⟨taggedBefore, taggedRest, rfl, rfl, restEq⟩ := List.map_eq_append_iff.mp split
  obtain ⟨⟨identifier, _⟩, taggedAfter, rfl, rfl, rfl⟩ := List.map_eq_cons_iff.mp restEq
  obtain ⟨-, occurrence, located, hasKind, -, moduleEq⟩ :=
    (tokensAt.mem_iff _ _).mp (List.mem_append_right _ List.mem_cons_self)
  rw [← sameModule]
  refine ⟨identifier, ⟨occurrence, located⟩, sameKind ▸ hasKind, moduleEq.symm, ?_⟩
  rintro other ⟨otherOccurrence, otherLocated⟩ otherKind
  rcases List.mem_append.mp (tokensAt.mem_of_located otherLocated otherKind) with
    isBefore | isLater
  · exact absurd (below _ (List.mem_map_of_mem isBefore)) (Nat.lt_irrefl _)
  · rcases List.mem_cons.mp isLater with isFirst | isAfter
    · obtain rfl : other = identifier := congrArg Prod.fst isFirst
      exact Std.ReflCmp.isLE_rfl
    · have afterSorted := (List.pairwise_append.mp tokensAt.sorted).2.1
      exact (List.pairwise_cons.mp afterSorted).1 _ isAfter

theorem declaration_iff :
    token.modifiers.declaration = true ↔
      ∃ identifier occurrence, root.Holds.Located text identifier occurrence token.range ∧
        ∃ context ∈ occurrence.details.contexts, context ∉ [.use, .imported, .exported] := by
  rw [joins.declaration]
  constructor
  · rintro ⟨_, member, declares⟩
    obtain ⟨⟨identifier, raw⟩, isTagged, rfl⟩ := List.mem_map.mp member
    obtain ⟨-, occurrence, located, -, modifiersEq, -⟩ := (tokensAt.mem_iff _ _).mp isTagged
    rw [modifiersEq, Occurrence.declaration_modifiers_iff] at declares
    exact ⟨identifier, occurrence, located, declares⟩
  · rintro ⟨identifier, occurrence, located, binds⟩
    have hasKind := (root.hasKind_iff names identifier _).mpr rfl
    exact ⟨_, List.mem_map_of_mem (tokensAt.mem_of_located located hasKind),
      occurrence.declaration_modifiers_iff.mpr binds⟩

theorem defaultLibrary_eq_false : token.modifiers.defaultLibrary = false := by
  refine Bool.eq_false_iff.mpr fun isLibrary => ?_
  obtain ⟨_, member, isLibrary⟩ := joins.defaultLibrary.mp isLibrary
  obtain ⟨⟨identifier, raw⟩, isTagged, rfl⟩ := List.mem_map.mp member
  obtain ⟨-, occurrence, -, -, modifiersEq, -⟩ := (tokensAt.mem_iff _ _).mp isTagged
  rw [modifiersEq, occurrence.defaultLibrary_modifiers] at isLibrary
  cases isLibrary

/-- A token that stands for all tokens of its range means what it says. -/
theorem means : root.Holds.Means names text token where
  highest := by
    rintro identifier kind ⟨occurrence, located⟩ hasKind
    exact joins.rank_le _ (List.mem_map_of_mem (tokensAt.mem_of_located located hasKind))
  first := tokensAt.exists_first joins
  declaration := tokensAt.declaration_iff joins
  defaultLibrary := tokensAt.defaultLibrary_eq_false joins

end TokensAt

end Node

/-- The tokens of a document. Their ranges are the greedy selection from the ranges at which the
text has an occurrence of the tree, and no other list is; so a range that is left out starts inside
one that is kept. Every identifier has one kind, from all its occurrences together, and a token
means what the identifiers say that stand at its range. -/
theorem tokens_mean_what_stands
    (root : Node)
    (names : NameMap)
    (text : List Char)
    (linesFit : (LineTable.ofText text).LinesFit) :
    let candidate := fun range => ∃ identifier, root.Holds.StandsAt text identifier range
    let kept := (root.tokens names text).map RangedToken.range
    TokenRange.GreedySelection candidate kept ∧
      (∀ other, TokenRange.GreedySelection candidate other → other = kept) ∧
      (∀ range, candidate range → range ∉ kept →
        ∃ earlier ∈ kept, earlier.line = range.line ∧ earlier.start.toNat ≤ range.start.toNat ∧
          range.start.toNat < earlier.start.toNat + earlier.length.toNat) ∧
      (∀ identifier, ∃! kind, root.Holds.HasKind names identifier kind) ∧
      ∀ token ∈ root.tokens names text, root.Holds.Means names text token := by
  intro candidate kept
  have selects : TokenRange.GreedySelection candidate kept := by
    have fits : ∀ token ∈ root.rawTokens names text, token.range.Fits := rawTokens_fit linesFit
    have fromRaw := RangedToken.greedySelection_normalize fits
    simp only [root.mem_map_range_rawTokens_iff names text] at fromRaw
    exact fromRaw
  refine ⟨selects, fun other selectsToo => selectsToo.eq selects,
    fun range => selects.exists_inside_of_notMem, fun identifier => ?_, fun token member => ?_⟩
  · exact ⟨_, (root.hasKind_iff names identifier _).mpr rfl, fun kind hasKind =>
      ((root.hasKind_iff names identifier kind).mp hasKind).symm⟩
  · have merged := (RangedToken.dropOverlaps_sublist none _).subset member
    have joins := RangedToken.joinOf_of_mem_mergeRanges merged
    obtain ⟨tagged, sameTokens, tokensAt⟩ := root.exists_tokensAt names text token.range
    rw [← sameTokens] at joins
    exact tokensAt.means joins

/-- A module, and after it a name that is spelled like its last part, an operator and a field. -/
def nestedText : List Char :=
  ['M', '.', 'f', ' ', 'f', ' ', '+', ' ', 'x']

/-- The tree of `nestedText`. The first name is bound inside the range of the module and used after
it, where another name of the same spelling stands as well. The others are bound nowhere. -/
def nestedNode : Node :=
  (((Node.leaf ⟨⟨0, 0⟩, ⟨0, 3⟩⟩).addIdentifiers
      [(.ofModule "M.f", Details.empty),
        (.ofName ⟨"f", 2, some "M"⟩, .ofContexts false [.matchBinding])]).addChild
    ((Node.leaf ⟨⟨0, 4⟩, ⟨0, 5⟩⟩).addIdentifiers
      [(.ofName ⟨"f", 1, none⟩, .ofContexts false [.valueBinding]),
        (.ofName ⟨"f", 2, some "M"⟩, Details.empty)])).addChild
    (((Node.leaf ⟨⟨0, 6⟩, ⟨0, 9⟩⟩).addChild
      ((Node.leaf ⟨⟨0, 6⟩, ⟨0, 7⟩⟩).addIdentifier (.ofName ⟨"+", 3, some "N"⟩)
        (.ofContexts false [.use]))).addChild
      ((Node.leaf ⟨⟨0, 8⟩, ⟨0, 9⟩⟩).addIdentifier (.ofName ⟨"x", 4, some "N"⟩)
        (.ofContexts false [.use])))

/-- The names of `nestedText` that other files define: a class method and a field. -/
def nestedNames : NameMap :=
  (NameMap.empty.insert 3 (.value true true false)).insert 4 (.value true false true)

/-- The token after the module: a function for the binding that has no token, and a declaration for
the other name. -/
def nestedToken : RangedToken where
  range := ⟨0, 4, 1⟩
  kind := .function
  modifiers := Modifiers.declarationOnly
  definedIn := some "M"

/-- The method has a name made of symbols, so its token is an operator. -/
def nestedTokens : List RangedToken :=
  [⟨⟨0, 0, 3⟩, .moduleName, Modifiers.none, none⟩, nestedToken,
    ⟨⟨0, 6, 1⟩, .operator, Modifiers.none, some "N"⟩,
    ⟨⟨0, 8, 1⟩, .recordField, Modifiers.none, some "N"⟩]

theorem tokens_mean_what_stands_nested :
    (LineTable.ofText nestedText).LinesFit ∧
      nestedNode.tokens nestedNames nestedText = nestedTokens ∧
      (∃ identifier, nestedNode.Holds.StandsAt nestedText identifier ⟨0, 2, 1⟩) ∧
      (∃ earlier ∈ nestedTokens.map RangedToken.range,
        earlier.start.toNat ≤ 2 ∧ 2 < earlier.start.toNat + earlier.length.toNat) ∧
      (∀ token ∈ nestedTokens, nestedNode.Holds.Means nestedNames nestedText token) := by
  have linesFit : (LineTable.ofText nestedText).LinesFit :=
    LineTable.linesFit_of_unitLength_lt (by decide)
  have tokensEq : nestedNode.tokens nestedNames nestedText = nestedTokens := by decide +kernel
  have inside : ∃ identifier, nestedNode.Holds.StandsAt nestedText identifier ⟨0, 2, 1⟩ := by
    rw [← nestedNode.mem_map_range_rawTokens_iff nestedNames]
    decide +kernel
  obtain ⟨-, -, dropped, -, means⟩ :=
    tokens_mean_what_stands nestedNode nestedNames nestedText linesFit
  rw [tokensEq] at dropped means
  obtain ⟨earlier, isKept, -, starts, ends⟩ := dropped ⟨0, 2, 1⟩ inside (by decide)
  exact ⟨linesFit, tokensEq, inside, ⟨earlier, isKept, starts, ends⟩, means⟩

end Highlight
