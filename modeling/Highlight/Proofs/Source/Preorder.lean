import Highlight.Proofs.Source.Reference
import Mathlib.Algebra.BigOperators.Group.List.Lemmas
import Mathlib.Algebra.GroupWithZero.Nat

/-!
Contract: the reference map is the collection in pre-order, grouped by identifier.

Owns: which identifiers the reference map has, the list under each of them, and
the number of all entries. A node has at most one entry for an identifier, so
that the list under an identifier goes node by node, and counting the entries by
identifier or by node comes to the same.

Does not own: the work list of the traversal.
-/

set_option autoImplicit false

namespace Highlight

/-- The entries of a node for an identifier: the one that stands there, or none. -/
theorem Annotations.filter_toList (annotations : Annotations) (identifier : Identifier) :
    annotations.toList.filter (fun entry => entry.1 = identifier) =
      (annotations[identifier]?.map (Prod.mk identifier)).toList := by
  have keysNodup : (annotations.toList.map Prod.fst).Nodup := by
    rw [Std.ExtTreeMap.map_fst_toList_eq_keys]
    exact Std.ExtTreeMap.nodup_keys
  cases found : annotations[identifier]? with
  | none =>
      simp only [Option.map_none, Option.toList_none, List.filter_eq_nil_iff, decide_eq_true_eq]
      rintro ⟨other, details⟩ member rfl
      rw [Std.ExtTreeMap.mem_toList_iff_getElem?_eq_some, found] at member
      cases member
  | some details =>
      have member : (identifier, details) ∈ annotations.toList :=
        Std.ExtTreeMap.mem_toList_iff_getElem?_eq_some.mpr found
      have onlyOne : annotations.toList.filter (fun entry => entry.1 = identifier) =
          annotations.toList.filter (fun entry => entry = (identifier, details)) := by
        refine List.filter_congr fun entry isEntry => decide_eq_decide.mpr ⟨fun same => ?_, ?_⟩
        · exact List.inj_on_of_nodup_map keysNodup isEntry member same
        · rintro rfl
          rfl
      rw [onlyOne, List.filter_eq, List.count_eq_one_of_mem keysNodup.of_map member]
      rfl

namespace ReferenceMap

theorem mem_record_iff
    (references : ReferenceMap)
    (recorded identifier : Identifier)
    (occurrence : Occurrence) :
    identifier ∈ references.record recorded occurrence ↔
      identifier ∈ references ∨ recorded = identifier := by
  rw [record, Std.ExtTreeMap.mem_alter]
  by_cases same : recorded = identifier
  · simp [same, Std.ReflCmp.compare_self]
  · rw [if_neg (by rwa [Std.LawfulEqCmp.compare_eq_iff_eq])]
    simp [same]

/-- Recording adds the identifiers that are recorded, and no others. -/
theorem mem_recordAll_iff
    (references : ReferenceMap)
    (occurrences : List (Identifier × Occurrence))
    (identifier : Identifier) :
    identifier ∈ references.recordAll occurrences ↔
      identifier ∈ references ∨ identifier ∈ occurrences.map Prod.fst := by
  induction occurrences generalizing references with
  | nil => simp [recordAll]
  | cons entry rest inductionHypothesis =>
      obtain ⟨recorded, occurrence⟩ := entry
      show identifier ∈ (references.record recorded occurrence).recordAll rest ↔ _
      rw [inductionHypothesis, mem_record_iff, List.map_cons, List.mem_cons, or_assoc,
        eq_comm (a := recorded)]

theorem getElem?_eq_some_listed
    {references : ReferenceMap}
    {identifier : Identifier}
    (present : identifier ∈ references) :
    references[identifier]? = some (references.listed identifier) := by
  obtain ⟨found, isFound⟩ :=
    Option.isSome_iff_exists.mp (Std.ExtTreeMap.mem_iff_isSome_getElem?.mp present)
  rw [listed, isFound, Option.getD_some]

end ReferenceMap

namespace Node

def occurrence? (node : Node) (identifier : Identifier) : Option Occurrence :=
  node.identifiers[identifier]?.map (Occurrence.mk node.span)

theorem nodesAll_eq_flatMap (trees : List Node) : nodesAll trees = trees.flatMap nodes := by
  induction trees with
  | nil => rfl
  | cons node rest inductionHypothesis => rw [nodesAll, inductionHypothesis, List.flatMap_cons]

theorem filter_ownOccurrences (node : Node) (identifier : Identifier) :
    (node.ownOccurrences.filter (fun entry => entry.1 = identifier)).map Prod.snd =
      (node.occurrence? identifier).toList := by
  rw [ownOccurrences, List.filter_map, List.map_map]
  show (node.identifiers.toList.filter (fun entry => entry.1 = identifier)).map
      (fun entry => Occurrence.mk node.span entry.2) = _
  rw [Annotations.filter_toList, occurrence?]
  cases node.identifiers[identifier]? <;> rfl

/-- The occurrences of an identifier, collected node by node. -/
theorem filter_occurrences (root : Node) (identifier : Identifier) :
    (root.occurrences.filter (fun entry => entry.1 = identifier)).map Prod.snd =
      root.nodes.filterMap (·.occurrence? identifier) := by
  rw [occurrences, List.filter_flatMap, List.map_flatMap]
  simp only [filter_ownOccurrences]
  rw [List.filterMap_eq_flatMap_toList]

theorem mem_map_fst_occurrences_iff (root : Node) (identifier : Identifier) :
    identifier ∈ root.occurrences.map Prod.fst ↔
      ∃ node ∈ root.nodes, identifier ∈ node.identifiers := by
  have own (node : Node) : node.ownOccurrences.map Prod.fst = node.identifiers.keys := by
    rw [ownOccurrences, List.map_map, ← Std.ExtTreeMap.map_fst_toList_eq_keys]
    rfl
  rw [occurrences, List.map_flatMap, List.mem_flatMap]
  simp only [own, Std.ExtTreeMap.mem_keys]

theorem mem_references_iff (root : Node) (identifier : Identifier) :
    identifier ∈ root.references ↔ ∃ node ∈ root.nodes, identifier ∈ node.identifiers := by
  rw [references_eq_recordAll, ReferenceMap.mem_recordAll_iff, mem_map_fst_occurrences_iff]
  simp

theorem length_occurrences (root : Node) :
    root.occurrences.length = (root.nodes.map (·.identifiers.size)).sum := by
  rw [occurrences, List.length_flatMap]
  simp only [ownOccurrences, List.length_map, Std.ExtTreeMap.length_toList]

/-- The lists of the reference map have as many entries as the tree. -/
theorem sum_length_references (root : Node) :
    (root.references.toList.map (·.2.length)).sum = root.occurrences.length := by
  have byIdentifier : root.references.toList.map (·.2.length) =
      root.references.keys.map fun identifier =>
        (root.occurrences.map Prod.fst).count identifier := by
    rw [← Std.ExtTreeMap.map_fst_toList_eq_keys, List.map_map]
    refine List.map_congr_left fun entry isEntry => ?_
    obtain ⟨identifier, found⟩ := entry
    rw [Std.ExtTreeMap.mem_toList_iff_getElem?_eq_some] at isEntry
    have isListed : root.references.listed identifier = found := by
      rw [ReferenceMap.listed, isEntry, Option.getD_some]
    rw [listed_references] at isListed
    show found.length = (root.occurrences.map Prod.fst).count identifier
    rw [← isListed, List.length_map, List.count, List.countP_map, List.countP_eq_length_filter]
    rfl
  -- the keys are the identifiers that occur, each of them once
  have distinct : root.references.keys.Perm (root.occurrences.map Prod.fst).dedup := by
    rw [List.perm_ext_iff_of_nodup Std.ExtTreeMap.nodup_keys (List.nodup_dedup _)]
    intro identifier
    rw [Std.ExtTreeMap.mem_keys, mem_references_iff, List.mem_dedup, mem_map_fst_occurrences_iff]
  rw [byIdentifier, (distinct.map _).sum_eq, List.sum_map_count_dedup_eq_length, List.length_map]

/-- The reference map of a tree has the identifiers that occur in it, and under each of them lists
how it occurs at the nodes that hold it, in pre-order: a node comes before its children, and these
from left to right. All lists together have as many entries as the nodes have identifiers. -/
theorem references_list_preorder (root : Node) :
    root.nodes = root :: root.children.flatMap nodes ∧
      (∀ identifier : Identifier,
        identifier ∈ root.references ↔ ∃ node ∈ root.nodes, identifier ∈ node.identifiers) ∧
      (∀ identifier : Identifier, identifier ∈ root.references →
        root.references[identifier]? = some (root.nodes.filterMap (·.occurrence? identifier))) ∧
      (root.references.toList.map (·.2.length)).sum =
        (root.nodes.map (·.identifiers.size)).sum := by
  refine ⟨?_, root.mem_references_iff, fun identifier present => ?_, ?_⟩
  · rw [nodes_eq, nodesAll_eq_flatMap]
  · rw [ReferenceMap.getElem?_eq_some_listed present, listed_references, filter_occurrences]
  · rw [sum_length_references, length_occurrences]

def branchedName : Identifier := .ofName ⟨"f", 1, none⟩

/-- The name at the root, at its first child beside a module, and below its second child, which
holds nothing itself. -/
def branchedNode : Node :=
  (((leaf ⟨⟨0, 0⟩, ⟨2, 0⟩⟩).addIdentifier branchedName (.ofContexts true [])).addChild
      ((leaf ⟨⟨0, 0⟩, ⟨0, 3⟩⟩).addIdentifiers
        [(branchedName, .ofContexts false [.matchBinding]), (.ofModule "M", Details.empty)])).addChild
    ((leaf ⟨⟨1, 0⟩, ⟨1, 9⟩⟩).addChild
      ((leaf ⟨⟨1, 6⟩, ⟨1, 9⟩⟩).addIdentifier branchedName (.ofContexts false [.use])))

/-- The name is listed from the outside in and from left to right; with the module there are four
entries. -/
theorem references_list_preorder_branched :
    branchedName ∈ branchedNode.references ∧
      branchedNode.references[branchedName]? =
        some [⟨⟨⟨0, 0⟩, ⟨2, 0⟩⟩, .ofContexts true []⟩,
          ⟨⟨⟨0, 0⟩, ⟨0, 3⟩⟩, .ofContexts false [.matchBinding]⟩,
          ⟨⟨⟨1, 6⟩, ⟨1, 9⟩⟩, .ofContexts false [.use]⟩] ∧
      (branchedNode.references.toList.map (·.2.length)).sum = 4 := by
  obtain ⟨-, occurs, listed, total⟩ := references_list_preorder branchedNode
  have atRoot : branchedName ∈ branchedNode.identifiers := by decide
  have present : branchedName ∈ branchedNode.references :=
    (occurs branchedName).mpr ⟨branchedNode, List.mem_cons_self, atRoot⟩
  exact ⟨present, (listed branchedName present).trans (by decide), total.trans rfl⟩

end Node

end Highlight
