import Highlight.Source.Tree

/-!
Contract: all occurrences of each identifier in a syntax tree.

Owns: the reference map of a tree. Nodes are visited in pre-order, children from
left to right, with the nodes still to visit on a work list, so that deep trees
need no deep recursion.
-/

set_option autoImplicit false

namespace Highlight

structure Occurrence where
  span : Span
  details : Details
  deriving DecidableEq

abbrev ReferenceMap := Std.ExtTreeMap Identifier (List Occurrence)

/-- The map with one more occurrence, after those that the identifier has. -/
def ReferenceMap.record (references : ReferenceMap) (identifier : Identifier)
    (occurrence : Occurrence) : ReferenceMap :=
  references.alter identifier fun known => some (known.getD [] ++ [occurrence])

namespace Node

/-- The identifiers of the node itself, in their order, each with its occurrence. -/
def ownOccurrences (node : Node) : List (Identifier × Occurrence) :=
  node.identifiers.toList.map fun (identifier, details) => (identifier, ⟨node.span, details⟩)

def recordOwn (node : Node) (references : ReferenceMap) : ReferenceMap :=
  node.ownOccurrences.foldl
    (fun references (identifier, occurrence) => references.record identifier occurrence) references

mutual

def count : Node → Nat
  | ⟨_, _, children⟩ => 1 + countAll children

def countAll : List Node → Nat
  | [] => 0
  | node :: rest => count node + countAll rest

end

theorem countAll_append
    (left right : List Node) :
    countAll (left ++ right) = countAll left + countAll right := by
  induction left with
  | nil => simp [countAll]
  | cons node rest inductionHypothesis =>
    simp only [List.cons_append, countAll, inductionHypothesis]
    omega

theorem count_eq (node : Node) : count node = 1 + countAll node.children := by
  cases node
  rfl

/-- Visits the nodes of a work list and adds what they hold to a reference map. -/
def visit (pending : List Node) (references : ReferenceMap) : ReferenceMap :=
  match pending with
  | [] => references
  | node :: rest => visit (node.children ++ rest) (node.recordOwn references)
termination_by countAll pending
decreasing_by
  simp only [countAll, countAll_append, count_eq]
  omega

/-- Every identifier of the tree with all its occurrences, in pre-order. -/
def references (root : Node) : ReferenceMap :=
  visit [root] ∅

end Node

end Highlight
