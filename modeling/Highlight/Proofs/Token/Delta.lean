import Highlight.Token.Delta
import Mathlib.Algebra.Group.Nat.Defs

/-!
Contract: the edits between two token arrays turn the one into the other.

Owns: the shape of computed edits, as a cut of both arrays into a common front,
a common rear and what differs in between, and the effect of an edit of that
shape. Places in an edit are numbers of 32 bits, so arrays are bounded here.
-/

set_option autoImplicit false

namespace Highlight

/-- The common start is cut off both lists. -/
theorem exists_commonStart_append (left right : List WireToken) :
    ∃ common leftRest rightRest,
      left = common ++ leftRest ∧ right = common ++ rightRest ∧
        common.length = commonStart left right := by
  induction left generalizing right with
  | nil => exact ⟨[], [], right, rfl, rfl, rfl⟩
  | cons token rest inductionHypothesis =>
      cases right with
      | nil => exact ⟨[], token :: rest, [], rfl, rfl, rfl⟩
      | cons other others =>
          by_cases same : token = other
          · obtain ⟨common, leftRest, rightRest, restEq, othersEq, size⟩ :=
              inductionHypothesis others
            refine ⟨token :: common, leftRest, rightRest, ?_, ?_, ?_⟩
            · rw [List.cons_append, ← restEq]
            · rw [List.cons_append, ← othersEq, same]
            · rw [List.length_cons, size, commonStart, if_pos same]
          · refine ⟨[], token :: rest, other :: others, rfl, rfl, ?_⟩
            rw [commonStart, if_neg same]
            rfl

theorem commonStart_self (tokens : List WireToken) :
    commonStart tokens tokens = tokens.length := by
  induction tokens with
  | nil => rfl
  | cons token rest inductionHypothesis =>
      rw [commonStart, if_pos rfl, inductionHypothesis, List.length_cons]

/-- The common start takes in both lists exactly when they are equal. -/
theorem commonStart_eq_lengths_iff (left right : List WireToken) :
    commonStart left right = left.length ∧ commonStart left right = right.length ↔
      left = right := by
  constructor
  · rintro ⟨wholeLeft, wholeRight⟩
    obtain ⟨common, leftRest, rightRest, leftEq, rightEq, size⟩ :=
      exists_commonStart_append left right
    have leftSize := congrArg List.length leftEq
    have rightSize := congrArg List.length rightEq
    rw [List.length_append] at leftSize rightSize
    have leftDone : leftRest = [] := List.eq_nil_of_length_eq_zero (by omega)
    have rightDone : rightRest = [] := List.eq_nil_of_length_eq_zero (by omega)
    rw [leftEq, rightEq, leftDone, rightDone]
  · rintro rfl
    exact ⟨commonStart_self left, commonStart_self left⟩

def TokenEdit.replacing (front removed inserted : List WireToken) : TokenEdit where
  start := UInt32.ofNat (front.length * WireToken.width)
  deleteCount := UInt32.ofNat (removed.length * WireToken.width)
  data := some inserted

/-- In an array that is not too long, the place and the count of an edit are exact. -/
theorem TokenEdit.replacing_toNat
    (front removed inserted rear : List WireToken)
    (fits : WireToken.width * (front ++ removed ++ rear).length < 2 ^ 32) :
    (TokenEdit.replacing front removed inserted).start.toNat = front.length * WireToken.width ∧
      (TokenEdit.replacing front removed inserted).deleteCount.toNat =
        removed.length * WireToken.width := by
  rw [List.length_append, List.length_append, WireToken.width] at fits
  constructor
  · exact UInt32.toNat_ofNat_of_lt' (show _ < 2 ^ 32 by rw [WireToken.width]; omega)
  · exact UInt32.toNat_ofNat_of_lt' (show _ < 2 ^ 32 by rw [WireToken.width]; omega)

/-- An edit of an array that is not too long puts the new tokens in the place of the old ones. -/
theorem TokenEdit.apply_replacing
    (front removed inserted rear : List WireToken)
    (fits : WireToken.width * (front ++ removed ++ rear).length < 2 ^ 32) :
    TokenEdit.apply (front ++ removed ++ rear) (TokenEdit.replacing front removed inserted) =
      front ++ inserted ++ rear := by
  obtain ⟨startEq, deleteEq⟩ := TokenEdit.replacing_toNat front removed inserted rear fits
  have startClamped : min front.length (front ++ removed ++ rear).length = front.length := by
    rw [List.length_append, List.length_append]
    omega
  have stopClamped :
      min (front.length + removed.length) (front ++ removed ++ rear).length =
        (front ++ removed).length := by
    rw [List.length_append, List.length_append]
    omega
  have inserts : (TokenEdit.replacing front removed inserted).data.getD [] = inserted := rfl
  rw [TokenEdit.apply, startEq, deleteEq, inserts]
  simp only [Nat.mul_div_cancel _ (show 0 < WireToken.width by decide), startClamped, stopClamped]
  rw [List.drop_left, List.append_assoc front removed rear, List.take_left]

/-- The edit falls on token boundaries of the old array and does not run past its end. -/
theorem TokenEdit.replacing_within
    (front removed inserted rear : List WireToken)
    (fits : WireToken.width * (front ++ removed ++ rear).length < 2 ^ 32) :
    let edit := TokenEdit.replacing front removed inserted
    WireToken.width ∣ edit.start.toNat ∧ WireToken.width ∣ edit.deleteCount.toNat ∧
      edit.start.toNat + edit.deleteCount.toNat ≤
        WireToken.width * (front ++ removed ++ rear).length := by
  intro edit
  obtain ⟨startEq, deleteEq⟩ := TokenEdit.replacing_toNat front removed inserted rear fits
  rw [startEq, deleteEq]
  refine ⟨Nat.dvd_mul_left _ _, Nat.dvd_mul_left _ _, ?_⟩
  rw [← Nat.add_mul, Nat.mul_comm, ← List.length_append]
  exact Nat.mul_le_mul_left _ (List.sublist_append_left _ rear).length_le

namespace TokenArray

/-- Of different arrays, the one edit replaces what stands between the longest common front and the
longest common rear of what that leaves. -/
theorem exists_cut_of_ne
    (previous current : TokenArray)
    (different : previous.data ≠ current.data) :
    ∃ front removed inserted rear,
      previous.data = front ++ removed ++ rear ∧ current.data = front ++ inserted ++ rear ∧
        front.length = commonStart previous.data current.data ∧
        rear.length = commonStart (removed ++ rear).reverse (inserted ++ rear).reverse ∧
        previous.delta current =
          ⟨current.resultId, [TokenEdit.replacing front removed inserted]⟩ := by
  obtain ⟨front, oldRest, newRest, oldEq, newEq, frontSize⟩ :=
    exists_commonStart_append previous.data current.data
  -- the common end is the common start of what is left, read from behind
  obtain ⟨ending, removed, inserted, removedEq, insertedEq, endingSize⟩ :=
    exists_commonStart_append oldRest.reverse newRest.reverse
  have oldRestEq : oldRest = removed.reverse ++ ending.reverse := by
    rw [← List.reverse_append, ← removedEq, List.reverse_reverse]
  have newRestEq : newRest = inserted.reverse ++ ending.reverse := by
    rw [← List.reverse_append, ← insertedEq, List.reverse_reverse]
  refine ⟨front, removed.reverse, inserted.reverse, ending.reverse, ?_, ?_, frontSize, ?_, ?_⟩
  · rw [oldEq, oldRestEq, List.append_assoc]
  · rw [newEq, newRestEq, List.append_assoc]
  · rw [← oldRestEq, ← newRestEq, List.length_reverse, endingSize]
  · have oldDrop : previous.data.drop front.length = oldRest := by
      rw [oldEq, List.drop_left]
    have newDrop : current.data.drop front.length = newRest := by
      rw [newEq, List.drop_left]
    have removedSize : oldRest.length - ending.length = removed.reverse.length := by
      rw [oldRestEq, List.length_append, List.length_reverse, List.length_reverse]
      omega
    have insertedPart :
        newRest.take (newRest.length - ending.length) = inserted.reverse := by
      have size : newRest.length - ending.length = inserted.reverse.length := by
        rw [newRestEq, List.length_append, List.length_reverse, List.length_reverse]
        omega
      rw [size, newRestEq, List.take_left]
    rw [delta, if_neg (fun whole => different ((commonStart_eq_lengths_iff _ _).mp whole))]
    simp only [← frontSize, oldDrop, newDrop, ← endingSize, removedSize, insertedPart,
      TokenEdit.replacing]

/-- Equal arrays need no edit; of others, one edit replaces what stands between a common front
and a common rear. -/
theorem delta_cases (previous current : TokenArray) :
    (previous.data = current.data ∧ previous.delta current = ⟨current.resultId, []⟩) ∨
      (previous.data ≠ current.data ∧
        ∃ front removed inserted rear,
          previous.data = front ++ removed ++ rear ∧ current.data = front ++ inserted ++ rear ∧
            previous.delta current =
              ⟨current.resultId, [TokenEdit.replacing front removed inserted]⟩) := by
  by_cases same : previous.data = current.data
  · refine Or.inl ⟨same, ?_⟩
    rw [delta, if_pos ((commonStart_eq_lengths_iff _ _).mpr same)]
  · obtain ⟨front, removed, inserted, rear, oldEq, newEq, -, -, deltaEq⟩ :=
      exists_cut_of_ne previous current same
    exact Or.inr ⟨same, front, removed, inserted, rear, oldEq, newEq, deltaEq⟩

theorem delta_resultId (previous current : TokenArray) :
    (previous.delta current).resultId = current.resultId := by
  rcases delta_cases previous current with ⟨-, deltaEq⟩ | ⟨-, _, _, _, _, -, -, deltaEq⟩
  · rw [deltaEq]
  · rw [deltaEq]

/-- The edits turn the previous array into the current one. -/
theorem applyAll_delta
    (previous current : TokenArray)
    (fits : WireToken.width * previous.data.length < 2 ^ 32) :
    TokenEdit.applyAll (previous.delta current).edits previous.data = current.data := by
  rcases delta_cases previous current with
    ⟨same, deltaEq⟩ | ⟨-, front, removed, inserted, rear, oldEq, newEq, deltaEq⟩
  · rw [deltaEq]
    exact same
  · rw [oldEq] at fits
    rw [deltaEq, newEq, oldEq]
    exact TokenEdit.apply_replacing front removed inserted rear fits

/-- The edits between two arrays turn the one into the other and carry the id of the new one. Equal
arrays need none and others exactly one, which starts and stops between tokens of the previous
array. -/
theorem delta_round_trip
    (previous current : TokenArray)
    (fits : WireToken.width * max previous.data.length current.data.length < 2 ^ 32) :
    TokenEdit.applyAll (previous.delta current).edits previous.data = current.data ∧
      (previous.delta current).resultId = current.resultId ∧
      (previous.delta current).edits.length = (if previous.data = current.data then 0 else 1) ∧
      ∀ edit ∈ (previous.delta current).edits,
        WireToken.width ∣ edit.start.toNat ∧ WireToken.width ∣ edit.deleteCount.toNat ∧
          edit.start.toNat + edit.deleteCount.toNat ≤
            WireToken.width * previous.data.length := by
  have previousFits : WireToken.width * previous.data.length < 2 ^ 32 :=
    Nat.lt_of_le_of_lt (Nat.mul_le_mul_left _ (Nat.le_max_left _ _)) fits
  refine ⟨applyAll_delta previous current previousFits, delta_resultId previous current, ?_⟩
  rcases delta_cases previous current with
    ⟨same, deltaEq⟩ | ⟨different, front, removed, inserted, rear, oldEq, -, deltaEq⟩
  · rw [deltaEq, if_pos same]
    exact ⟨rfl, fun edit member => absurd member List.not_mem_nil⟩
  · rw [deltaEq, if_neg different]
    refine ⟨rfl, fun edit member => ?_⟩
    rw [List.mem_singleton.mp member, oldEq]
    rw [oldEq] at previousFits
    exact TokenEdit.replacing_within front removed inserted rear previousFits

/-- An array of equal tokens, one to a line. -/
def repeated (count : Nat) : TokenArray where
  resultId := some (Nat.repr count)
  data := List.replicate count ⟨1, 0, 1, 17, 0⟩

/-- Where tokens repeat, common start and common end compete for them. -/
theorem delta_round_trip_repeated :
    WireToken.width * max (repeated 3).data.length (repeated 2).data.length < 2 ^ 32 ∧
      ((repeated 3).delta (repeated 2)).edits = [⟨10, 5, some []⟩] ∧
      TokenEdit.applyAll ((repeated 3).delta (repeated 2)).edits (repeated 3).data =
        (repeated 2).data ∧
      ((repeated 3).delta (repeated 2)).resultId = some "2" := by
  have fits : WireToken.width * max (repeated 3).data.length (repeated 2).data.length < 2 ^ 32 := by
    decide
  obtain ⟨applied, carried, -, -⟩ := delta_round_trip (repeated 3) (repeated 2) fits
  exact ⟨fits, by decide, applied, carried⟩

end TokenArray

end Highlight
