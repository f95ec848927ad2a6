import Highlight.Proofs.Text.Split
import Highlight.Proofs.Token.Collect
import Highlight.Proofs.Token.Merge
import Highlight.Proofs.Token.Selection
import Mathlib.Data.List.Basic

/-!
Contract: the tokens of one line.

Owns: the tokens of a document by line, and their independence of all other
lines. An occurrence is located on the line where its span starts; tokens of one
line are merged with tokens of that line only, and overlap only with these. So
each step to the token list commutes with the restriction to a line, and the
text is read only at that line.

Does not own: kinds, which come from the whole tree. The tree is the same on
both sides here.
-/

set_option autoImplicit false

namespace Highlight

open Highlight.Text

namespace RangedToken

def onLine (number : Nat) (tokens : List RangedToken) : List RangedToken :=
  tokens.filter fun token => token.range.line.toNat = number

@[simp] theorem mem_onLine {number : Nat} {tokens : List RangedToken} {token : RangedToken} :
    token ∈ onLine number tokens ↔ token ∈ tokens ∧ token.range.line.toNat = number := by
  rw [onLine, List.mem_filter, decide_eq_true_eq]

theorem onLine_cons_of_eq
    {number : Nat}
    {token : RangedToken}
    (isOn : token.range.line.toNat = number)
    (rest : List RangedToken) :
    onLine number (token :: rest) = token :: onLine number rest :=
  List.filter_cons_of_pos (decide_eq_true isOn)

theorem onLine_cons_of_ne
    {number : Nat}
    {token : RangedToken}
    (notOn : token.range.line.toNat ≠ number)
    (rest : List RangedToken) :
    onLine number (token :: rest) = onLine number rest :=
  List.filter_cons_of_neg (by simpa using notOn)

theorem onLine_eq_nil
    {number : Nat}
    {tokens : List RangedToken}
    (noneOn : ∀ token ∈ tokens, token.range.line.toNat ≠ number) :
    onLine number tokens = [] :=
  List.filter_eq_nil_iff.mpr fun token member => by simpa using noneOn token member

/-- Tokens are merged with tokens of their own line. -/
theorem onLine_mergeRanges (number : Nat) (tokens : List RangedToken) :
    onLine number (mergeRanges tokens) = mergeRanges (onLine number tokens) := by
  refine eq_of_sorted_of_mem_iff ((mergeRanges_sorted tokens).sublist List.filter_sublist)
    (mergeRanges_sorted _) fun token => ?_
  rw [mem_onLine]
  by_cases isOn : token.range.line.toNat = number
  · have sameRange :
        (onLine number tokens).filter (·.range = token.range) =
          tokens.filter (·.range = token.range) := by
      rw [onLine, List.filter_filter]
      refine List.filter_congr fun other _ => ?_
      by_cases same : other.range = token.range <;> simp [same, isOn]
    simp only [mem_mergeRanges_iff, getElem?_foldl_place, sameRange, isOn, and_true]
  · refine ⟨fun merged => absurd merged.2 isOn, fun merged => ?_⟩
    obtain ⟨raw, isRaw, sameRange⟩ := exists_range_of_mem_mergeRanges merged
    rw [← sameRange] at isOn
    exact absurd (mem_onLine.mp isRaw).2 isOn

/-- Whether a token starts inside the range kept last is decided on its own line. -/
theorem any_startsInside_filter
    (last : Option TokenRange)
    (range : TokenRange) :
    (last.filter fun earlier => earlier.line.toNat = range.line.toNat).any range.startsInside =
      last.any range.startsInside := by
  cases last with
  | none => rfl
  | some earlier =>
      by_cases sameLine : earlier.line.toNat = range.line.toNat
      · simp [Option.filter, sameLine]
      · have outside : range.startsInside earlier = false := by
          rw [TokenRange.startsInside, beq_eq_false_iff_ne.mpr fun same =>
            sameLine (congrArg UInt32.toNat same), Bool.false_and]
        simp [Option.filter, sameLine, outside]

/-- Overlaps are dropped line by line. The lines never go back, so the range kept last is of the
line in question as long as tokens of that line can follow. -/
theorem onLine_dropOverlaps
    (number : Nat)
    {last : Option TokenRange}
    {tokens : List RangedToken}
    (lastBefore : ∀ earlier ∈ last, ∀ token ∈ tokens, earlier.line ≤ token.range.line)
    (sorted : tokens.Pairwise fun left right => compare left.range right.range = .lt) :
    onLine number (dropOverlaps last tokens) =
      dropOverlaps (last.filter fun earlier => earlier.line.toNat = number)
        (onLine number tokens) := by
  induction tokens generalizing last with
  | nil => rfl
  | cons token rest inductionHypothesis =>
      obtain ⟨tokenFirst, restSorted⟩ := List.pairwise_cons.mp sorted
      have lastBeforeRest : ∀ earlier ∈ last, ∀ other ∈ rest, earlier.line ≤ other.range.line :=
        fun earlier isLast other member =>
          lastBefore earlier isLast other (List.mem_cons_of_mem _ member)
      have tokenBeforeRest := line_le_of_sorted_cons tokenFirst
      by_cases isOn : token.range.line.toNat = number
      · rw [onLine_cons_of_eq isOn, dropOverlaps, dropOverlaps, ← isOn, any_startsInside_filter,
          isOn]
        split
        · exact inductionHypothesis lastBeforeRest restSorted
        · rw [onLine_cons_of_eq isOn, inductionHypothesis tokenBeforeRest restSorted]
          simp [Option.filter, isOn]
      · rw [onLine_cons_of_ne isOn, dropOverlaps]
        split
        · exact inductionHypothesis lastBeforeRest restSorted
        · rw [onLine_cons_of_ne isOn, inductionHypothesis tokenBeforeRest restSorted,
            Option.filter_some_neg (by simpa using isOn)]
          cases last with
          | none => rfl
          | some earlier =>
              by_cases earlierOn : earlier.line.toNat = number
              -- the line is left behind, so no token of it follows
              · have noneLeft : onLine number rest = [] := by
                  refine onLine_eq_nil fun other member => ?_
                  have fromEarlier := lastBefore earlier rfl token List.mem_cons_self
                  have fromToken := tokenBeforeRest token.range rfl other member
                  rw [UInt32.le_iff_toNat_le] at fromEarlier fromToken
                  omega
                rw [noneLeft]
                rfl
              · rw [Option.filter_some_neg (by simpa using earlierOn)]

/-- The normal form is made line by line. -/
theorem onLine_normalize (number : Nat) (tokens : List RangedToken) :
    onLine number (normalize tokens) = normalize (onLine number tokens) := by
  have byLine :
      onLine number (dropOverlaps none (mergeRanges tokens)) =
        dropOverlaps none (onLine number (mergeRanges tokens)) :=
    onLine_dropOverlaps number (by simp) (mergeRanges_sorted tokens)
  rw [normalize, byLine, onLine_mergeRanges, normalize]

end RangedToken

/-! ### What a line is read for -/

/-- Locating a name reads one line of the text. -/
theorem locate_eq_of_line_eq
    {left right : LineTable}
    {span : Span}
    (same : left.line span.start.line.toNat = right.line span.start.line.toNat)
    (spelling : List Char) :
    locate left span spelling = locate right span spelling := by
  rw [locate, locate, same]

theorem line_eq_of_locate
    {table : LineTable}
    {span : Span}
    {spelling : List Char}
    {range : TokenRange}
    (located : locate table span spelling = some range) :
    range.line = span.start.line := by
  obtain ⟨line, -, wrapping, qualifier, foundAt⟩ := exists_foundAt_of_locate located
  rw [foundAt.rangeEq]

/-- The tokens of an identifier on a line come from that line of the text. -/
theorem Identifier.onLine_tokens_congr
    {left right : LineTable}
    {number : Nat}
    (same : left.line number = right.line number)
    (names : NameMap)
    (identifier : Identifier)
    (occurrences : List Occurrence) :
    RangedToken.onLine number (identifier.tokens left names occurrences) =
      RangedToken.onLine number (identifier.tokens right names occurrences) := by
  simp only [RangedToken.onLine, Identifier.tokens, List.filter_filterMap]
  refine List.filterMap_congr fun occurrence _ => ?_
  by_cases isOn : occurrence.span.start.line.toNat = number
  · rw [← isOn] at same
    rw [locate_eq_of_line_eq same]
  · have elsewhere (table : LineTable) (token : TokenRange → RangedToken)
        (ranged : ∀ range, (token range).range = range) :
        ((locate table occurrence.span identifier.spelling.toList).map token).filter
          (fun token => token.range.line.toNat = number) = none := by
      cases located : locate table occurrence.span identifier.spelling.toList with
      | none => rfl
      | some range =>
          refine Option.filter_some_neg ?_
          rw [ranged, line_eq_of_locate located]
          simpa using isOn
    rw [elsewhere left _ fun _ => rfl, elsewhere right _ fun _ => rfl]

theorem Node.onLine_rawTokens_congr
    {left right : List Char}
    {number : Nat}
    (same : (LineTable.ofText left).line number = (LineTable.ofText right).line number)
    (root : Node)
    (names : NameMap) :
    RangedToken.onLine number (root.rawTokens names left) =
      RangedToken.onLine number (root.rawTokens names right) := by
  rw [Node.rawTokens, Node.rawTokens, RangedToken.onLine, RangedToken.onLine, List.filter_flatMap,
    List.filter_flatMap]
  exact List.flatMap_congr fun entry _ => Identifier.onLine_tokens_congr same names entry.1 entry.2

/-- The tokens on a line come from that line of the text. -/
theorem Node.onLine_tokens_congr
    {left right : List Char}
    {number : Nat}
    (same : (LineTable.ofText left).line number = (LineTable.ofText right).line number)
    (root : Node)
    (names : NameMap) :
    RangedToken.onLine number (root.tokens names left) =
      RangedToken.onLine number (root.tokens names right) := by
  rw [Node.tokens, Node.tokens, RangedToken.onLine_normalize, RangedToken.onLine_normalize,
    root.onLine_rawTokens_congr same names]

/-- Documents with the same lines have the same tokens. -/
theorem Node.tokens_eq_of_lines_eq
    {left right : List Char}
    (same : ∀ number, (LineTable.ofText left).line number = (LineTable.ofText right).line number)
    (root : Node)
    (names : NameMap) :
    root.tokens names left = root.tokens names right := by
  refine RangedToken.eq_of_sorted_of_mem_iff (RangedToken.normalize_sorted _)
    (RangedToken.normalize_sorted _) fun token => ?_
  have sameLine := root.onLine_tokens_congr (same token.range.line.toNat) names
  have isOn (tokens : List RangedToken) :
      token ∈ tokens ↔ token ∈ RangedToken.onLine token.range.line.toNat tokens := by
    simp
  change token ∈ root.tokens names left ↔ token ∈ root.tokens names right
  rw [isOn, sameLine, ← isOn]

/-! ### Edits elsewhere -/

/-- The tokens on a line depend on that line only. They stay when other lines are changed, when
lines are added at the end, and when line feeds become carriage returns with line feeds. -/
theorem tokens_depend_on_own_line (root : Node) (names : NameMap) :
    (∀ (left right : List Char) (number : Nat),
      (LineTable.ofText left).line number = (LineTable.ofText right).line number →
      RangedToken.onLine number (root.tokens names left) =
        RangedToken.onLine number (root.tokens names right)) ∧
    (∀ (above otherAbove below otherBelow : List (List Char)) (line : List Char),
      above.length = otherAbove.length →
      (∀ piece ∈ above ++ line :: below, '\n' ∉ piece) →
      (∀ piece ∈ otherAbove ++ line :: otherBelow, '\n' ∉ piece) →
      RangedToken.onLine above.length
          (root.tokens names (['\n'].intercalate (above ++ line :: below))) =
        RangedToken.onLine above.length
          (root.tokens names (['\n'].intercalate (otherAbove ++ line :: otherBelow)))) ∧
    (∀ (text added : List Char) (number : Nat), number ≤ text.count '\n' →
      RangedToken.onLine number (root.tokens names (text ++ '\n' :: added)) =
        RangedToken.onLine number (root.tokens names text)) ∧
    ∀ (chosen : Nat → Bool) (text : List Char), '\r' ∉ text →
      root.tokens names (withReturns chosen text) = root.tokens names text := by
  refine ⟨fun left right number same => root.onLine_tokens_congr same names, ?_, ?_, ?_⟩
  · intro above otherAbove below otherBelow line sameCount noBreaks otherNoBreaks
    refine root.onLine_tokens_congr ?_ names
    have between (before after : List (List Char)) :
        (before ++ line :: after)[before.length]? = some line := by
      simp
    rw [LineTable.line_ofText, LineTable.line_ofText, lineOf?_intercalate noBreaks (by simp),
      lineOf?_intercalate otherNoBreaks (by simp), between, sameCount, between]
  · intro text added number isLine
    refine root.onLine_tokens_congr ?_ names
    rw [LineTable.line_ofText, LineTable.line_ofText, lineOf?_append text added isLine]
  · intro chosen text noReturns
    refine root.tokens_eq_of_lines_eq (fun number => ?_) names
    rw [LineTable.line_ofText, LineTable.line_ofText, lineOf?_withReturns chosen noReturns]

def twoLineText : List Char :=
  ['f', '\n', 'x']

def twoLineNode : Node :=
  ⟨⟨⟨0, 0⟩, ⟨1, 1⟩⟩, ∅,
    [(Node.leaf ⟨⟨0, 0⟩, ⟨0, 1⟩⟩).addIdentifier (.ofName ⟨"f", 1, none⟩) Details.empty,
      (Node.leaf ⟨⟨1, 0⟩, ⟨1, 1⟩⟩).addIdentifier (.ofName ⟨"x", 2, none⟩) Details.empty]⟩

def twoLineToken (line : UInt32) : RangedToken where
  range := ⟨line, 0, 1⟩
  kind := .var
  modifiers := Modifiers.none
  definedIn := none

/-- The first line is changed, in two ways, a line is added, and the line feed gets a carriage
return. -/
theorem tokens_depend_on_own_line_two_lines :
    twoLineNode.tokens NameMap.empty twoLineText = [twoLineToken 0, twoLineToken 1] ∧
      (LineTable.ofText ['\n', 'x']).line 1 = (LineTable.ofText twoLineText).line 1 ∧
      RangedToken.onLine 1 (twoLineNode.tokens NameMap.empty ['\n', 'x']) = [twoLineToken 1] ∧
      RangedToken.onLine 1 (twoLineNode.tokens NameMap.empty
        (['\n'].intercalate ([['g', ' ', 'h']] ++ ['x'] :: []))) = [twoLineToken 1] ∧
      RangedToken.onLine 1 (twoLineNode.tokens NameMap.empty (twoLineText ++ '\n' :: ['y'])) =
        [twoLineToken 1] ∧
      twoLineNode.tokens NameMap.empty (withReturns (fun _ => true) twoLineText) =
        [twoLineToken 0, twoLineToken 1] := by
  obtain ⟨sameLine, between, added, returns⟩ :=
    tokens_depend_on_own_line twoLineNode NameMap.empty
  have tokensEq :
      twoLineNode.tokens NameMap.empty twoLineText = [twoLineToken 0, twoLineToken 1] := by
    decide +kernel
  have sameSecond :
      (LineTable.ofText ['\n', 'x']).line 1 = (LineTable.ofText twoLineText).line 1 := by
    decide
  have onSecond : RangedToken.onLine 1 [twoLineToken 0, twoLineToken 1] = [twoLineToken 1] := by
    decide
  refine ⟨tokensEq, sameSecond, ?_, ?_, ?_, ?_⟩
  · rw [sameLine _ twoLineText 1 sameSecond, tokensEq, onSecond]
  · have changed := between [['g', ' ', 'h']] [['f']] [] [] ['x'] rfl (by decide) (by decide)
    have joined : ['\n'].intercalate ([['f']] ++ ['x'] :: []) = twoLineText := rfl
    rw [joined, tokensEq] at changed
    exact changed.trans onSecond
  · rw [added twoLineText ['y'] 1 (by decide), tokensEq, onSecond]
  · rw [returns (fun _ => true) twoLineText (by decide), tokensEq]

end Highlight
