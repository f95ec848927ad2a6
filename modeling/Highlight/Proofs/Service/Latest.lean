/-!
Contract: the event of a history that is still in force.

Owns: the latest write of a history that nothing has erased since, and what one
more event does to it. Which events write and which erase is left open, so that
the results of a run, the calls of the rule and the writes of a cache are read
in the same way.
-/

set_option autoImplicit false

namespace Highlight

/-- The event is the last write of the history, and no later event erases it. -/
def IsLatest {α : Type} (writes erases : α → Prop) (history : List α) (event : α) : Prop :=
  ∃ earlier later : List α, history = earlier ++ event :: later ∧ writes event ∧
    ∀ other ∈ later, ¬ writes other ∧ ¬ erases other

namespace IsLatest

variable {α : Type} {writes erases : α → Prop}

theorem mem {history : List α} {event : α} (latest : IsLatest writes erases history event) :
    event ∈ history := by
  obtain ⟨earlier, later, rfl, -⟩ := latest
  exact List.mem_append_right _ List.mem_cons_self

theorem not_nil (event : α) : ¬ IsLatest writes erases [] event := by
  intro latest
  exact absurd latest.mem List.not_mem_nil

/-- After one more event, the latest write is that event, or the one before, if the event neither
writes nor erases. -/
theorem append_singleton_iff (history : List α) (added event : α) :
    IsLatest writes erases (history ++ [added]) event ↔
      (added = event ∧ writes event) ∨
        (IsLatest writes erases history event ∧ ¬ writes added ∧ ¬ erases added) := by
  constructor
  · rintro ⟨earlier, later, split, isWrite, undisturbed⟩
    -- The added event is the write itself, or the last of what comes after it.
    rcases List.eq_nil_or_concat later with rfl | ⟨middle, last, rfl⟩
    · have ends : added = event := List.singleton_inj.mp (List.append_inj' split rfl).2
      exact Or.inl ⟨ends, isWrite⟩
    · rw [List.concat_eq_append] at split undisturbed
      rw [← List.cons_append, ← List.append_assoc] at split
      obtain ⟨rfl, ends⟩ := List.append_inj' split rfl
      obtain rfl : added = last := List.singleton_inj.mp ends
      refine Or.inr ⟨⟨earlier, middle, rfl, isWrite, ?_⟩, ?_⟩
      · exact fun other member => undisturbed other (List.mem_append_left _ member)
      · exact undisturbed added (List.mem_append_right _ (List.mem_singleton_self _))
  · rintro (⟨rfl, isWrite⟩ | ⟨⟨earlier, later, rfl, isWrite, undisturbed⟩, quiet⟩)
    · exact ⟨history, [], rfl, isWrite, fun _ member => absurd member List.not_mem_nil⟩
    · refine ⟨earlier, later ++ [added], ?_, isWrite, ?_⟩
      · rw [List.append_assoc, List.cons_append]
      · intro other member
        rcases List.mem_append.mp member with inLater | isAdded
        · exact undisturbed other inLater
        · rw [List.mem_singleton.mp isAdded]
          exact quiet

end IsLatest

end Highlight
