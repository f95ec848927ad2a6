import Highlight.Proofs.Source.Reference
import Highlight.Proofs.Text.Utf16
import Highlight.Proofs.Token.Locate
import Highlight.Proofs.Token.Normalize
import Highlight.Token.Collect

/-!
Contract: what the tokens of a document stand for.

Owns: the way back from a token to the tree and the text. A token has the range
of an occurrence that was located in the text; from there its order, its length
and the characters it covers follow.

Does not own: kinds and modifiers, which do not depend on the text.
-/

set_option autoImplicit false

namespace Highlight

open Highlight.Text

/-- Before normalization, the tokens are the occurrences of the tree that the text confirms. -/
theorem exists_located_of_mem_rawTokens
    {root : Node}
    {names : NameMap}
    {text : List Char}
    {token : RangedToken}
    (member : token ∈ root.rawTokens names text) :
    ∃ identifier occurrence,
      (identifier, occurrence) ∈ root.occurrences ∧
        locate (LineTable.ofText text) occurrence.span identifier.spelling.toList =
          some token.range := by
  rw [Node.rawTokens, List.mem_flatMap] at member
  obtain ⟨⟨identifier, found⟩, entry, inEntry⟩ := member
  obtain ⟨occurrence, inFound, isToken⟩ := List.mem_filterMap.mp inEntry
  obtain ⟨range, located, rfl⟩ := Option.map_eq_some_iff.mp isToken
  exact ⟨identifier, occurrence, Node.mem_occurrences_of_mem_references entry inFound, located⟩

/-- Every token of a document has the range of an occurrence located in its text. -/
theorem exists_located_of_mem_tokens
    {root : Node}
    {names : NameMap}
    {text : List Char}
    {token : RangedToken}
    (member : token ∈ root.tokens names text) :
    ∃ identifier occurrence,
      (identifier, occurrence) ∈ root.occurrences ∧
        locate (LineTable.ofText text) occurrence.span identifier.spelling.toList =
          some token.range := by
  obtain ⟨raw, rawMember, sameRange⟩ := RangedToken.exists_range_of_mem_normalize member
  rw [← sameRange]
  exact exists_located_of_mem_rawTokens rawMember

namespace CoversAt

variable {line : List Char} {span : Span} {spelling : List Char} {range : TokenRange}

theorem length_pos (covers : CoversAt line span spelling range) : 1 ≤ range.length.toNat := by
  obtain ⟨before, after, -, -, lengthUnits, -, -⟩ := covers.placed
  rw [lengthUnits]
  exact unitLength_pos covers.nonempty

theorem fits
    (covers : CoversAt line span spelling range)
    (lineFits : unitLength line < 2 ^ 32) :
    range.Fits := by
  obtain ⟨before, after, whole, startUnits, lengthUnits, -, -⟩ := covers.placed
  rw [whole, unitLength_append, unitLength_append] at lineFits
  rw [TokenRange.Fits, startUnits, lengthUnits]
  omega

/-- The code units under the range are those of the spelling. -/
theorem unitSlice_eq (covers : CoversAt line span spelling range) :
    unitSlice line range.start.toNat range.length.toNat = codeUnits spelling := by
  obtain ⟨before, after, whole, startUnits, lengthUnits, -, -⟩ := covers.placed
  rw [startUnits, lengthUnits, whole, unitSlice_append]

/-- The range lies inside the columns of the span, counted in code units. -/
theorem within_span (covers : CoversAt line span spelling range) :
    unitLength (line.take span.start.column.toNat) ≤ range.start.toNat ∧
      range.start.toNat + range.length.toNat ≤
        unitLength (line.take span.stop.column.toNat) := by
  obtain ⟨before, after, -, startUnits, lengthUnits, fromStart, upToStop⟩ := covers.placed
  rw [startUnits, lengthUnits, ← unitLength_append]
  exact ⟨unitLength_le_of_isPrefix fromStart, unitLength_le_of_isPrefix upToStop⟩

end CoversAt

section Document

variable {root : Node} {names : NameMap} {text : List Char}

theorem rawTokens_fit
    (linesFit : (LineTable.ofText text).LinesFit) :
    ∀ token ∈ root.rawTokens names text, token.range.Fits := by
  intro token member
  obtain ⟨identifier, occurrence, -, located⟩ := exists_located_of_mem_rawTokens member
  obtain ⟨line, lineEq, covers⟩ := locate_spec linesFit located
  exact covers.fits (linesFit _ line lineEq)

/-- The tokens of a document are in order. -/
theorem tokens_inOrder
    (linesFit : (LineTable.ofText text).LinesFit) :
    RangedToken.InOrder (root.tokens names text) :=
  RangedToken.normalize_inOrder (rawTokens_fit linesFit)

theorem tokens_length_pos
    (linesFit : (LineTable.ofText text).LinesFit) :
    ∀ token ∈ root.tokens names text, 1 ≤ token.range.length.toNat := by
  intro token member
  obtain ⟨identifier, occurrence, -, located⟩ := exists_located_of_mem_tokens member
  obtain ⟨line, lineEq, covers⟩ := locate_spec linesFit located
  exact covers.length_pos

end Document

/-- No token is guessed. Every token lies on one line of the text and covers there, in whole
characters, the spelling of an identifier that some node of the tree holds, inside the columns of
that node's span. -/
theorem token_spells_identifier
    (root : Node)
    (names : NameMap)
    (text : List Char)
    (linesFit : (LineTable.ofText text).LinesFit)
    (token : RangedToken)
    (member : token ∈ root.tokens names text) :
    ∃ node ∈ root.nodes, ∃ identifier, identifier ∈ node.identifiers ∧
      node.span.isSingleLine = true ∧ token.range.line = node.span.start.line ∧
      ∃ line, (LineTable.ofText text).line token.range.line.toNat = some line ∧
        unitSlice line token.range.start.toNat token.range.length.toNat =
          codeUnits identifier.spelling.toList ∧
        ofCodeUnits? (unitSlice line token.range.start.toNat token.range.length.toNat) =
          some identifier.spelling.toList ∧
        node.span.stop.column.toNat ≤ line.length ∧
        unitLength (line.take node.span.start.column.toNat) ≤ token.range.start.toNat ∧
        token.range.start.toNat + token.range.length.toNat ≤
          unitLength (line.take node.span.stop.column.toNat) := by
  obtain ⟨identifier, occurrence, inTree, located⟩ := exists_located_of_mem_tokens member
  obtain ⟨line, lineEq, covers⟩ := locate_spec linesFit located
  obtain ⟨node, isNode, annotated, spanEq⟩ :=
    (Node.mem_occurrences_iff root identifier occurrence).mp inTree
  have isHeld : identifier ∈ node.identifiers := by
    rw [Std.ExtTreeMap.mem_iff_isSome_getElem?, annotated]
    rfl
  rw [spanEq] at covers lineEq
  have slice := covers.unitSlice_eq
  refine ⟨node, isNode, identifier, isHeld, covers.singleLine, covers.sameLine, line, ?_, slice, ?_,
    covers.withinLine, covers.within_span⟩
  · rw [covers.sameLine]
    exact lineEq
  · rw [slice, ofCodeUnits?_codeUnits]

/-- A qualified name in parentheses, behind a character of two code units. -/
def wrappedText : List Char :=
  ['𝕏', ' ', '(', 'M', '.', 'f', ')']

def wrappedNode : Node :=
  (Node.leaf ⟨⟨0, 2⟩, ⟨0, 7⟩⟩).addIdentifier (.ofName ⟨"f", 1, some "M"⟩) Details.empty

/-- The one token of `wrappedText`: the name alone, six code units into the line. -/
def wrappedToken : RangedToken where
  range := ⟨0, 6, 1⟩
  kind := .var
  modifiers := Modifiers.none
  definedIn := some "M"

theorem token_spells_identifier_wrapped :
    (LineTable.ofText wrappedText).LinesFit ∧
      wrappedToken ∈ wrappedNode.tokens NameMap.empty wrappedText ∧
      ∃ node ∈ wrappedNode.nodes, ∃ identifier, identifier ∈ node.identifiers ∧
        ∃ line, (LineTable.ofText wrappedText).line 0 = some line ∧
          ofCodeUnits? (unitSlice line 6 1) = some identifier.spelling.toList := by
  have linesFit : (LineTable.ofText wrappedText).LinesFit :=
    LineTable.linesFit_of_unitLength_lt (by decide)
  have tokensEq : wrappedNode.tokens NameMap.empty wrappedText = [wrappedToken] := by decide +kernel
  have member : wrappedToken ∈ wrappedNode.tokens NameMap.empty wrappedText := by
    rw [tokensEq]
    exact List.mem_cons_self
  obtain ⟨node, isNode, identifier, isHeld, -, -, line, lineEq, -, spelled, -⟩ :=
    token_spells_identifier wrappedNode NameMap.empty wrappedText linesFit wrappedToken member
  exact ⟨linesFit, member, node, isNode, identifier, isHeld, line, lineEq, spelled⟩

end Highlight
