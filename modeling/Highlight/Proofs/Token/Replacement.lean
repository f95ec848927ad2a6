import Highlight.Proofs.Token.Delta

/-!
Contract: the computed edit is the smallest one.

Owns: the ways to turn one list of tokens into another by replacing one stretch,
and the comparison of all of them with the computed edit. The common end is
looked for only behind the common start, so where tokens repeat, the start may
take tokens that the end would have taken. What the end loses the start has
gained, and no stretch gets longer by that.
-/

set_option autoImplicit false

namespace Highlight

/-- A way to turn one list into another: what stands between a common front and a common rear is
replaced. -/
structure Replacement (old new : List WireToken) where
  front : List WireToken
  removed : List WireToken
  inserted : List WireToken
  rear : List WireToken
  old_eq : old = front ++ removed ++ rear
  new_eq : new = front ++ inserted ++ rear

/-- The common start is the longest one: it takes in all that two lists have in common there. -/
theorem le_commonStart
    {left right : List WireToken}
    {count : Nat}
    (inLeft : count ≤ left.length)
    (inRight : count ≤ right.length)
    (same : left.take count = right.take count) :
    count ≤ commonStart left right := by
  induction left generalizing right count with
  | nil => exact Nat.le_trans inLeft (Nat.zero_le _)
  | cons token rest inductionHypothesis =>
      cases right with
      | nil => exact Nat.le_trans inRight (Nat.zero_le _)
      | cons other others =>
          cases count with
          | zero => exact Nat.zero_le _
          | succ count =>
              rw [List.take_succ_cons, List.take_succ_cons] at same
              obtain ⟨sameFirst, sameRest⟩ := List.cons.inj same
              rw [commonStart, if_pos sameFirst]
              exact Nat.succ_le_succ (inductionHypothesis (Nat.le_of_succ_le_succ inLeft)
                (Nat.le_of_succ_le_succ inRight) sameRest)

/-- Read from behind, a list goes through its rear first. -/
theorem take_reverse_append
    {count : Nat}
    {rear : List WireToken}
    (inRear : count ≤ rear.length)
    (before : List WireToken) :
    (before ++ rear).reverse.take count = rear.reverse.take count := by
  have inReversed : count ≤ rear.reverse.length := by rwa [List.length_reverse]
  rw [List.reverse_append, List.take_append_of_le_length inReversed]

namespace Replacement

variable {old new : List WireToken} (replacement : Replacement old new)

theorem length_old :
    old.length =
      replacement.front.length + replacement.removed.length + replacement.rear.length := by
  rw [congrArg List.length replacement.old_eq, List.length_append, List.length_append]

theorem length_new :
    new.length =
      replacement.front.length + replacement.inserted.length + replacement.rear.length := by
  rw [congrArg List.length replacement.new_eq, List.length_append, List.length_append]

/-- No front is longer than the common start. -/
theorem front_le_commonStart : replacement.front.length ≤ commonStart old new := by
  have oldLength := replacement.length_old
  have newLength := replacement.length_new
  refine le_commonStart (by omega) (by omega) ?_
  obtain ⟨front, removed, inserted, rear, rfl, rfl⟩ := replacement
  dsimp only
  rw [List.append_assoc, List.append_assoc, List.take_left, List.take_left]

/-- Read from behind, both lists start with the rear. -/
theorem take_reverse_eq
    {count : Nat}
    (inRear : count ≤ replacement.rear.length) :
    old.reverse.take count = new.reverse.take count := by
  obtain ⟨front, removed, inserted, rear, rfl, rfl⟩ := replacement
  rw [take_reverse_append inRear, take_reverse_append inRear]

/-- Read from behind, the lists go through what follows the front first. -/
theorem take_reverse_rest
    {count : Nat}
    (inOld : count ≤ (replacement.removed ++ replacement.rear).length)
    (inNew : count ≤ (replacement.inserted ++ replacement.rear).length) :
    (replacement.removed ++ replacement.rear).reverse.take count = old.reverse.take count ∧
      (replacement.inserted ++ replacement.rear).reverse.take count = new.reverse.take count := by
  obtain ⟨front, removed, inserted, rear, rfl, rfl⟩ := replacement
  dsimp only at inOld inNew ⊢
  rw [List.append_assoc, List.append_assoc]
  exact ⟨(take_reverse_append inOld front).symm, (take_reverse_append inNew front).symm⟩

/-- Taking the front first and the rear from what is left keeps as much as any other choice. -/
theorem kept_le_of_longest
    (frontLongest : replacement.front.length = commonStart old new)
    (rearLongest : replacement.rear.length =
      commonStart (replacement.removed ++ replacement.rear).reverse
        (replacement.inserted ++ replacement.rear).reverse)
    (other : Replacement old new) :
    other.front.length + other.rear.length ≤
      replacement.front.length + replacement.rear.length := by
  have oldLength := replacement.length_old
  have newLength := replacement.length_new
  have otherOldLength := other.length_old
  have otherNewLength := other.length_new
  have frontLe := other.front_le_commonStart
  -- As much of the other rear as what follows the longest front has room for.
  let count := min other.rear.length
    (min (replacement.removed ++ replacement.rear).length
      (replacement.inserted ++ replacement.rear).length)
  have inRear : count ≤ other.rear.length := by omega
  have inOld : count ≤ (replacement.removed ++ replacement.rear).length := by omega
  have inNew : count ≤ (replacement.inserted ++ replacement.rear).length := by omega
  obtain ⟨oldEnd, newEnd⟩ := replacement.take_reverse_rest inOld inNew
  have countLe : count ≤ replacement.rear.length := by
    rw [rearLongest]
    refine le_commonStart ?_ ?_ ?_
    · rwa [List.length_reverse]
    · rwa [List.length_reverse]
    · rw [oldEnd, newEnd, other.take_reverse_eq inRear]
  rw [List.length_append] at inOld inNew
  simp only [count, List.length_append] at countLe
  omega

end Replacement

namespace TokenArray

/-- The edit between two different arrays removes and inserts as few tokens as any replacement of
one stretch does, and no such replacement starts further behind. -/
theorem delta_edit_smallest
    (previous current : TokenArray)
    (different : previous.data ≠ current.data)
    (fits : WireToken.width * previous.data.length < 2 ^ 32) :
    ∃ (edit : TokenEdit) (chosen : Replacement previous.data current.data),
      (previous.delta current).edits = [edit] ∧
        edit.start.toNat = chosen.front.length * WireToken.width ∧
        edit.deleteCount.toNat = chosen.removed.length * WireToken.width ∧
        edit.data = some chosen.inserted ∧
        ∀ other : Replacement previous.data current.data,
          edit.deleteCount.toNat / WireToken.width ≤ other.removed.length ∧
            chosen.inserted.length ≤ other.inserted.length ∧
            other.front.length * WireToken.width ≤ edit.start.toNat := by
  obtain ⟨front, removed, inserted, rear, oldEq, newEq, frontLongest, rearLongest, deltaEq⟩ :=
    exists_cut_of_ne previous current different
  let chosen : Replacement previous.data current.data :=
    ⟨front, removed, inserted, rear, oldEq, newEq⟩
  rw [oldEq] at fits
  obtain ⟨startEq, deleteEq⟩ := TokenEdit.replacing_toNat front removed inserted rear fits
  refine ⟨TokenEdit.replacing front removed inserted, chosen, by rw [deltaEq], startEq, deleteEq,
    rfl, fun other => ?_⟩
  have kept := chosen.kept_le_of_longest frontLongest rearLongest other
  have oldLength := chosen.length_old
  have newLength := chosen.length_new
  have otherOldLength := other.length_old
  have otherNewLength := other.length_new
  have frontLe := other.front_le_commonStart
  rw [startEq, deleteEq, Nat.mul_div_cancel _ (show 0 < WireToken.width by decide)]
  refine ⟨?_, ?_, Nat.mul_le_mul_right _ (frontLongest ▸ frontLe)⟩
  · simp only [chosen] at kept oldLength
    omega
  · simp only [chosen] at kept newLength ⊢
    omega

/-- The first of three equal tokens is removed. The computed edit removes the last one. -/
def removesFirst : Replacement (repeated 3).data (repeated 2).data where
  front := []
  removed := (repeated 1).data
  inserted := []
  rear := (repeated 2).data
  old_eq := by decide
  new_eq := by decide

/-- Where tokens repeat, one may be removed at several places. -/
theorem delta_edit_smallest_repeated :
    (repeated 3).data ≠ (repeated 2).data ∧
      WireToken.width * (repeated 3).data.length < 2 ^ 32 ∧
      ((repeated 3).delta (repeated 2)).edits = [⟨10, 5, some []⟩] ∧
      (∀ other : Replacement (repeated 3).data (repeated 2).data,
        1 ≤ other.removed.length ∧ other.front.length * WireToken.width ≤ 10) ∧
      removesFirst.removed.length = 1 ∧ removesFirst.inserted.length = 0 := by
  have different : (repeated 3).data ≠ (repeated 2).data := by decide
  have fits : WireToken.width * (repeated 3).data.length < 2 ^ 32 := by decide
  have editsEq : ((repeated 3).delta (repeated 2)).edits = [⟨10, 5, some []⟩] := by decide
  obtain ⟨edit, chosen, isEdit, -, -, -, smallest⟩ :=
    delta_edit_smallest (repeated 3) (repeated 2) different fits
  rw [editsEq, List.singleton_inj] at isEdit
  refine ⟨different, fits, editsEq, fun other => ?_, rfl, rfl⟩
  obtain ⟨removedLe, -, startLe⟩ := smallest other
  rw [← isEdit] at removedLe startLe
  exact ⟨removedLe, startLe⟩

end TokenArray

end Highlight
