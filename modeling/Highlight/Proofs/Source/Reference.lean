import Highlight.Source.Reference

/-!
Contract: the reference map lists what stands in the tree.

Owns: the nodes of a tree in recursive pre-order, the occurrences that they
hold, and the agreement of the reference map with both. The work list of the
traversal appears in this module only.
-/

set_option autoImplicit false

namespace Highlight

namespace Node

mutual

/-- The nodes of a tree in pre-order, children from left to right. -/
def nodes : Node → List Node
  | ⟨span, identifiers, children⟩ => ⟨span, identifiers, children⟩ :: nodesAll children

def nodesAll : List Node → List Node
  | [] => []
  | node :: rest => nodes node ++ nodesAll rest

end

theorem nodes_eq (node : Node) : nodes node = node :: nodesAll node.children := by
  cases node
  rfl

theorem nodesAll_append (left right : List Node) :
    nodesAll (left ++ right) = nodesAll left ++ nodesAll right := by
  induction left with
  | nil => rfl
  | cons node rest inductionHypothesis =>
      rw [List.cons_append, nodesAll, nodesAll, inductionHypothesis, List.append_assoc]

def occurrences (root : Node) : List (Identifier × Occurrence) :=
  root.nodes.flatMap ownOccurrences

/-- An occurrence of a tree is an identifier of one of its nodes, with the span of that node and
the details kept there. -/
theorem mem_occurrences_iff
    (root : Node)
    (identifier : Identifier)
    (occurrence : Occurrence) :
    (identifier, occurrence) ∈ root.occurrences ↔
      ∃ node ∈ root.nodes,
        node.identifiers[identifier]? = some occurrence.details ∧
          occurrence.span = node.span := by
  obtain ⟨span, details⟩ := occurrence
  simp only [occurrences, ownOccurrences, List.mem_flatMap, List.mem_map, Prod.mk.injEq,
    Occurrence.mk.injEq, Prod.exists, Std.ExtTreeMap.mem_toList_iff_getElem?_eq_some]
  constructor
  · rintro ⟨node, inTree, other, found, kept, rfl, rfl, rfl⟩
    exact ⟨node, inTree, kept, rfl⟩
  · rintro ⟨node, inTree, kept, rfl⟩
    exact ⟨node, inTree, identifier, details, kept, rfl, rfl, rfl⟩

end Node

namespace ReferenceMap

def recordAll (references : ReferenceMap) (occurrences : List (Identifier × Occurrence)) :
    ReferenceMap :=
  occurrences.foldl
    (fun references (identifier, occurrence) => references.record identifier occurrence) references

/-- The occurrences listed for an identifier; none for one that is not there. -/
def listed (references : ReferenceMap) (identifier : Identifier) : List Occurrence :=
  references[identifier]?.getD []

theorem recordAll_append
    (references : ReferenceMap)
    (first second : List (Identifier × Occurrence)) :
    references.recordAll (first ++ second) = (references.recordAll first).recordAll second :=
  List.foldl_append

theorem listed_record
    (references : ReferenceMap)
    (recorded identifier : Identifier)
    (occurrence : Occurrence) :
    (references.record recorded occurrence).listed identifier =
      references.listed identifier ++ (if recorded = identifier then [occurrence] else []) := by
  rw [listed, record, Std.ExtTreeMap.getElem?_alter]
  by_cases same : recorded = identifier
  · subst same
    rw [if_pos Std.ReflCmp.compare_self, if_pos rfl]
    rfl
  · rw [if_neg (by rwa [Std.LawfulEqCmp.compare_eq_iff_eq]), if_neg same, List.append_nil]
    rfl

/-- Recording keeps, for every identifier, its occurrences in the order in which they came. -/
theorem listed_recordAll
    (references : ReferenceMap)
    (occurrences : List (Identifier × Occurrence))
    (identifier : Identifier) :
    (references.recordAll occurrences).listed identifier =
      references.listed identifier ++
        (occurrences.filter (fun entry => entry.1 = identifier)).map Prod.snd := by
  induction occurrences generalizing references with
  | nil => simp [recordAll]
  | cons entry rest inductionHypothesis =>
      obtain ⟨recorded, occurrence⟩ := entry
      have step :
          references.recordAll ((recorded, occurrence) :: rest) =
            (references.record recorded occurrence).recordAll rest := rfl
      rw [step, inductionHypothesis, listed_record, List.append_assoc]
      by_cases same : recorded = identifier <;> simp [same]

end ReferenceMap

namespace Node

/-- Visiting a work list records the occurrences of its trees in pre-order. -/
theorem visit_eq_recordAll (pending : List Node) (references : ReferenceMap) :
    visit pending references =
      references.recordAll ((nodesAll pending).flatMap ownOccurrences) := by
  fun_induction visit pending references with
  | case1 references => rfl
  | case2 references node rest inductionHypothesis =>
      have own : node.recordOwn references = references.recordAll node.ownOccurrences := rfl
      rw [inductionHypothesis, own, ← ReferenceMap.recordAll_append, nodesAll_append, nodesAll,
        nodes_eq, List.cons_append, List.flatMap_cons]

theorem references_eq_recordAll (root : Node) :
    root.references = ReferenceMap.recordAll ∅ root.occurrences := by
  have single : nodesAll [root] = root.nodes := by
    rw [nodesAll, nodesAll, List.append_nil]
  rw [references, visit_eq_recordAll, single, occurrences]

/-- The reference map lists, for every identifier, its occurrences in the tree in pre-order. -/
theorem listed_references (root : Node) (identifier : Identifier) :
    root.references.listed identifier =
      (root.occurrences.filter (fun entry => entry.1 = identifier)).map Prod.snd := by
  rw [references_eq_recordAll, ReferenceMap.listed_recordAll, ReferenceMap.listed]
  simp

/-- What the reference map lists for an identifier stands in the tree. -/
theorem mem_occurrences_of_mem_references
    {root : Node}
    {identifier : Identifier}
    {found : List Occurrence}
    {occurrence : Occurrence}
    (entry : (identifier, found) ∈ root.references.toList)
    (member : occurrence ∈ found) :
    (identifier, occurrence) ∈ root.occurrences := by
  rw [Std.ExtTreeMap.mem_toList_iff_getElem?_eq_some] at entry
  have isListed : occurrence ∈ root.references.listed identifier := by
    rw [ReferenceMap.listed, entry]
    exact member
  rw [listed_references, List.mem_map] at isListed
  obtain ⟨⟨other, same⟩, kept, rfl⟩ := isListed
  obtain ⟨inTree, isSame⟩ := List.mem_filter.mp kept
  rw [← of_decide_eq_true isSame]
  exact inTree

end Node

end Highlight
