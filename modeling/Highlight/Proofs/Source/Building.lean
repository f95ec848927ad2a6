import Highlight.Proofs.Token.Kind

/-!
Contract: a node does not show how it was built.

Owns: what a node holds once identifiers have been added to it one after
another, and that this depends on the pairs that were added and on nothing else.
An identifier that is added several times has the union of its details, whatever
came first and however often.

Does not own: the union of details, and what more details do to a kind.
-/

set_option autoImplicit false

namespace Highlight

def detailsOf (pairs : List (Identifier × Details)) (identifier : Identifier) : List Details :=
  (pairs.filter (fun pair => pair.1 = identifier)).map Prod.snd

theorem mem_detailsOf
    {pairs : List (Identifier × Details)}
    {identifier : Identifier}
    {details : Details} :
    details ∈ detailsOf pairs identifier ↔ (identifier, details) ∈ pairs := by
  rw [detailsOf, List.mem_map]
  constructor
  · rintro ⟨⟨other, _⟩, filtered, rfl⟩
    obtain ⟨member, same⟩ := List.mem_filter.mp filtered
    rw [← of_decide_eq_true same]
    exact member
  · intro member
    exact ⟨(identifier, details), List.mem_filter.mpr ⟨member, decide_eq_true rfl⟩, rfl⟩

namespace Annotations

def recordAll (annotations : Annotations) (pairs : List (Identifier × Details)) : Annotations :=
  pairs.foldl (fun annotations (identifier, details) => annotations.record identifier details)
    annotations

theorem getElem?_record
    (annotations : Annotations)
    (recorded identifier : Identifier)
    (details : Details) :
    (annotations.record recorded details)[identifier]? =
      if recorded = identifier then
        some ((annotations[identifier]?.getD Details.empty).merge details)
      else annotations[identifier]? := by
  rw [record, Std.ExtTreeMap.getElem?_alter]
  simp only [Std.LawfulEqCmp.compare_eq_iff_eq]
  split
  · next same => rw [same]
  · rfl

/-- An identifier has the details it had, merged with those it is added with; one that is not added
stays as it was. -/
theorem getElem?_recordAll
    (annotations : Annotations)
    (pairs : List (Identifier × Details))
    (identifier : Identifier) :
    (annotations.recordAll pairs)[identifier]? =
      if detailsOf pairs identifier = [] then annotations[identifier]?
      else some ((detailsOf pairs identifier).foldl Details.merge
        (annotations[identifier]?.getD Details.empty)) := by
  induction pairs generalizing annotations with
  | nil => rfl
  | cons pair rest inductionHypothesis =>
      obtain ⟨added, details⟩ := pair
      have step : annotations.recordAll ((added, details) :: rest) =
          (annotations.record added details).recordAll rest := rfl
      rw [step, inductionHypothesis, getElem?_record]
      by_cases same : added = identifier
      · have first : detailsOf ((added, details) :: rest) identifier =
            details :: detailsOf rest identifier := by simp [detailsOf, same]
        rw [first, if_pos same, if_neg (List.cons_ne_nil _ _), List.foldl_cons, Option.getD_some]
        split
        · next noMore => rw [noMore, List.foldl_nil]
        · rfl
      · have skipped : detailsOf ((added, details) :: rest) identifier =
            detailsOf rest identifier := by simp [detailsOf, same]
        rw [skipped, if_neg same]

section FromNothing

variable {pairs : List (Identifier × Details)} {identifier : Identifier}

theorem getElem?_recordAll_empty :
    (recordAll ∅ pairs)[identifier]? =
      if detailsOf pairs identifier = [] then none
      else some ((detailsOf pairs identifier).foldl Details.merge Details.empty) := by
  rw [getElem?_recordAll, Std.ExtTreeMap.getElem?_empty, Option.getD_none]

theorem mem_recordAll_empty_iff :
    identifier ∈ recordAll ∅ pairs ↔ ∃ details, (identifier, details) ∈ pairs := by
  rw [Std.ExtTreeMap.mem_iff_isSome_getElem?, getElem?_recordAll_empty]
  simp only [← mem_detailsOf]
  split
  · next noDetails => simp [noDetails]
  · next someDetails =>
      obtain ⟨details, member⟩ := List.exists_mem_of_ne_nil _ someDetails
      exact ⟨fun _ => ⟨details, member⟩, fun _ => rfl⟩

theorem isUnion_of_recordAll_empty
    {merged : Details}
    (held : (recordAll ∅ pairs)[identifier]? = some merged) :
    Details.IsUnion (fun details => (identifier, details) ∈ pairs) merged := by
  rw [getElem?_recordAll_empty] at held
  split at held
  · cases held
  · rw [← Option.some.inj held]
    exact (Details.isUnion_foldl_merge _).congr fun _ => mem_detailsOf

theorem recordAll_empty_eq_of_mem_iff
    {others : List (Identifier × Details)}
    (same : ∀ pair, pair ∈ pairs ↔ pair ∈ others) :
    recordAll ∅ pairs = recordAll ∅ others := by
  apply Std.ExtTreeMap.ext_getElem?
  intro identifier
  have sameDetails (details : Details) :
      details ∈ detailsOf pairs identifier ↔ details ∈ detailsOf others identifier := by
    rw [mem_detailsOf, mem_detailsOf, same]
  have sameAbsence : detailsOf pairs identifier = [] ↔ detailsOf others identifier = [] := by
    simp only [List.eq_nil_iff_forall_not_mem, sameDetails]
  rw [getElem?_recordAll_empty, getElem?_recordAll_empty,
    Details.foldl_merge_eq_of_mem_iff sameDetails]
  simp only [sameAbsence]

end FromNothing

end Annotations

/-- Adding identifiers to a node touches its annotations and nothing else. -/
theorem Node.addIdentifiers_eq (node : Node) (pairs : List (Identifier × Details)) :
    node.addIdentifiers pairs =
      { node with identifiers := node.identifiers.recordAll pairs } := by
  induction pairs generalizing node with
  | nil =>
      cases node
      rfl
  | cons pair rest inductionHypothesis => exact inductionHypothesis _

/-- A node that is made of pairs of identifiers and details holds these identifiers, each with the
union of its details. Pairs in another order, or some of them several times, make the same node. An
identifier is bound there if one of its pairs binds it, and it has at least the kind that any of its
pairs gives it. -/
theorem node_determined_by_pairs (span : Span) (pairs : List (Identifier × Details)) :
    ((Node.leaf span).addIdentifiers pairs).span = span ∧
      ((Node.leaf span).addIdentifiers pairs).children = [] ∧
      (∀ identifier : Identifier,
        identifier ∈ ((Node.leaf span).addIdentifiers pairs).identifiers ↔
          ∃ details, (identifier, details) ∈ pairs) ∧
      (∀ (identifier : Identifier) (merged : Details),
        ((Node.leaf span).addIdentifiers pairs).identifiers[identifier]? = some merged →
        Details.IsUnion (fun details => (identifier, details) ∈ pairs) merged ∧
          (merged.isBinding = true ↔
            ∃ details, (identifier, details) ∈ pairs ∧ details.isBinding = true) ∧
          ∀ (details : Details) (kind : TokenKind), (identifier, details) ∈ pairs →
            details.kind? = some kind →
            ∃ higher, merged.kind? = some higher ∧ kind.rank ≤ higher.rank) ∧
      ∀ others : List (Identifier × Details), (∀ pair, pair ∈ pairs ↔ pair ∈ others) →
        (Node.leaf span).addIdentifiers pairs = (Node.leaf span).addIdentifiers others := by
  have made (list : List (Identifier × Details)) :
      (Node.leaf span).addIdentifiers list = ⟨span, Annotations.recordAll ∅ list, []⟩ :=
    (Node.leaf span).addIdentifiers_eq list
  simp only [made]
  refine ⟨trivial, trivial, fun _ => Annotations.mem_recordAll_empty_iff, ?_, ?_⟩
  · intro identifier merged held
    have isUnion := Annotations.isUnion_of_recordAll_empty held
    refine ⟨isUnion, isUnion.isBinding_iff, fun details kind isPair isKind => ?_⟩
    refine Details.exists_kind?_of_more (fun context inContexts => ?_) (fun isTyped => ?_) isKind
    · exact (isUnion.contexts context).mpr ⟨details, isPair, inContexts⟩
    · exact isUnion.functionTyped.mpr ⟨details, isPair, isTyped⟩
  · intro others same
    rw [Annotations.recordAll_empty_eq_of_mem_iff same]

/-- A name that is bound as a variable by one pair and has a function type from another, among uses
and another name. -/
def scatteredPairs : List (Identifier × Details) :=
  [(.ofName ⟨"x", 7, none⟩, .ofContexts false [.use]),
    (.ofName ⟨"y", 8, none⟩, .ofContexts false [.typeVariableBinding]),
    (.ofName ⟨"x", 7, none⟩, .ofContexts false [.valueBinding]),
    (.ofName ⟨"x", 7, none⟩, .ofContexts true [])]

/-- The name is a function at the node, though no pair says so alone. From behind and with every
pair repeated, the node is the same. -/
theorem node_determined_by_pairs_scattered :
    (.ofName ⟨"x", 7, none⟩, .ofContexts false [.valueBinding]) ∈ scatteredPairs ∧
      (Details.ofContexts false [.valueBinding]).kind? = some .var ∧
      (Details.ofContexts true []).kind? = none ∧
      (∃ merged,
        ((Node.leaf ⟨⟨0, 0⟩, ⟨0, 1⟩⟩).addIdentifiers scatteredPairs).identifiers[
          Identifier.ofName ⟨"x", 7, none⟩]? = some merged ∧
        merged.kind? = some .function ∧ merged.isBinding = true ∧
        ∃ higher, merged.kind? = some higher ∧ TokenKind.var.rank ≤ higher.rank) ∧
      (Node.leaf ⟨⟨0, 0⟩, ⟨0, 1⟩⟩).addIdentifiers scatteredPairs =
        (Node.leaf ⟨⟨0, 0⟩, ⟨0, 1⟩⟩).addIdentifiers (scatteredPairs.reverse ++ scatteredPairs) := by
  obtain ⟨-, -, -, holds, order⟩ := node_determined_by_pairs ⟨⟨0, 0⟩, ⟨0, 1⟩⟩ scatteredPairs
  have isPair :
      (.ofName ⟨"x", 7, none⟩, .ofContexts false [.valueBinding]) ∈ scatteredPairs := by
    simp [scatteredPairs]
  have isVariable : (Details.ofContexts false [.valueBinding]).kind? = some .var := rfl
  have held : ((Node.leaf ⟨⟨0, 0⟩, ⟨0, 1⟩⟩).addIdentifiers scatteredPairs).identifiers[
      Identifier.ofName ⟨"x", 7, none⟩]? =
        some (.ofContexts true [.valueBinding, .use]) := rfl
  obtain ⟨-, binds, higher⟩ := holds _ _ held
  refine ⟨isPair, isVariable, rfl, ⟨_, held, rfl, ?_, higher _ _ isPair isVariable⟩, ?_⟩
  · exact binds.mpr ⟨_, isPair, rfl⟩
  · exact order _ fun pair => by simp

end Highlight
