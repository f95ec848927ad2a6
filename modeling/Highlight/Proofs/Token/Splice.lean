import Highlight.Proofs.Token.Delta

/-!
Contract: edits on tokens are edits on their numbers.

Owns: edits as plain replacements in an array of numbers, the edits that fall on
whole tokens inside the array they meet, and what becomes of all others: they
are rounded down to whole tokens and clamped. Applying edits to tokens agrees
with replacing numbers, edit by edit, although each edit changes the length that
the next one meets.
-/

set_option autoImplicit false

namespace Highlight

namespace WireToken

theorem length_flatten (tokens : List WireToken) :
    (flatten tokens).length = tokens.length * width := by
  induction tokens with
  | nil => rfl
  | cons token rest inductionHypothesis =>
      have wordCount : token.words.length = width := rfl
      rw [flatten, List.flatMap_cons, List.length_append, ← flatten, inductionHypothesis,
        List.length_cons, wordCount, Nat.succ_mul, Nat.add_comm]

@[simp] theorem flatten_append (left right : List WireToken) :
    flatten (left ++ right) = flatten left ++ flatten right :=
  List.flatMap_append

/-- Numbers are cut between tokens as tokens are. -/
theorem take_flatten (tokens : List WireToken) (count : Nat) :
    (flatten tokens).take (count * width) = flatten (tokens.take count) := by
  by_cases within : count ≤ tokens.length
  · have front : (flatten (tokens.take count)).length = count * width := by
      rw [length_flatten, List.length_take, Nat.min_eq_left within]
    have cut := congrArg flatten (List.take_append_drop count tokens)
    rw [flatten_append] at cut
    rw [← cut, ← front, List.take_left]
  · have beyond : tokens.length ≤ count := by omega
    rw [List.take_of_length_le beyond, List.take_of_length_le]
    rw [length_flatten]
    exact Nat.mul_le_mul_right _ beyond

theorem drop_flatten (tokens : List WireToken) (count : Nat) :
    (flatten tokens).drop (count * width) = flatten (tokens.drop count) := by
  have whole := congrArg flatten (List.take_append_drop count tokens)
  have numbers := List.take_append_drop (count * width) (flatten tokens)
  rw [flatten_append, ← numbers, take_flatten] at whole
  exact (List.append_cancel_left whole).symm

end WireToken

namespace TokenEdit

/-- The edit as a replacement of numbers: from its start on, as many as it deletes make way for
those of its tokens. -/
def splice (words : List UInt32) (edit : TokenEdit) : List UInt32 :=
  words.take edit.start.toNat ++ WireToken.flatten (edit.data.getD []) ++
    words.drop (edit.start.toNat + edit.deleteCount.toNat)

def spliceAll (edits : List TokenEdit) (words : List UInt32) : List UInt32 :=
  edits.foldl splice words

/-- The edit replaces whole tokens of an array of a given length. -/
structure Aligned (length : Nat) (edit : TokenEdit) : Prop where
  start_dvd : WireToken.width ∣ edit.start.toNat
  deleteCount_dvd : WireToken.width ∣ edit.deleteCount.toNat
  within : edit.start.toNat + edit.deleteCount.toNat ≤ length

instance (length : Nat) (edit : TokenEdit) : Decidable (edit.Aligned length) :=
  decidable_of_iff
    (WireToken.width ∣ edit.start.toNat ∧ WireToken.width ∣ edit.deleteCount.toNat ∧
      edit.start.toNat + edit.deleteCount.toNat ≤ length)
    ⟨fun ⟨start, count, within⟩ => ⟨start, count, within⟩,
      fun ⟨start, count, within⟩ => ⟨start, count, within⟩⟩

def AlignedAll : List TokenEdit → List UInt32 → Prop
  | [], _ => True
  | edit :: rest, words => edit.Aligned words.length ∧ AlignedAll rest (edit.splice words)

instance decidableAlignedAll :
    (edits : List TokenEdit) → (words : List UInt32) → Decidable (AlignedAll edits words)
  | [], _ => isTrue trivial
  | edit :: rest, words =>
      letI := decidableAlignedAll rest (edit.splice words)
      inferInstanceAs
        (Decidable (edit.Aligned words.length ∧ AlignedAll rest (edit.splice words)))

/-- The edit with start and count rounded down to whole tokens and clamped to an array of a given
length. -/
def clamped (length : Nat) (edit : TokenEdit) : TokenEdit :=
  let start := min (edit.start.toNat / WireToken.width * WireToken.width) length
  { start := UInt32.ofNat start
    deleteCount := UInt32.ofNat
      (min (edit.deleteCount.toNat / WireToken.width * WireToken.width) (length - start))
    data := edit.data }

def clampedAll : List TokenEdit → List UInt32 → List TokenEdit
  | [], _ => []
  | edit :: rest, words =>
      let inside := edit.clamped words.length
      inside :: clampedAll rest (inside.splice words)

theorem clamped_toNat (length : Nat) (edit : TokenEdit) :
    (edit.clamped length).start.toNat =
        min (edit.start.toNat / WireToken.width * WireToken.width) length ∧
      (edit.clamped length).deleteCount.toNat =
        min (edit.deleteCount.toNat / WireToken.width * WireToken.width)
          (length - (edit.clamped length).start.toNat) := by
  have startBound := edit.start.toNat_lt
  have deleteBound := edit.deleteCount.toNat_lt
  have startLe := Nat.div_mul_le_self edit.start.toNat WireToken.width
  have deleteLe := Nat.div_mul_le_self edit.deleteCount.toNat WireToken.width
  have startEq : (edit.clamped length).start.toNat =
      min (edit.start.toNat / WireToken.width * WireToken.width) length :=
    UInt32.toNat_ofNat_of_lt' (show _ < 2 ^ 32 by omega)
  refine ⟨startEq, ?_⟩
  rw [startEq]
  exact UInt32.toNat_ofNat_of_lt' (show _ < 2 ^ 32 by omega)

/-- In an array of whole tokens, the clamped edit replaces whole tokens. -/
theorem aligned_clamped
    {length : Nat}
    (whole : WireToken.width ∣ length)
    (edit : TokenEdit) :
    (edit.clamped length).Aligned length := by
  obtain ⟨startEq, deleteEq⟩ := edit.clamped_toNat length
  rw [WireToken.width] at whole startEq deleteEq
  have startWhole : 5 ∣ (edit.clamped length).start.toNat := by omega
  have deleteWhole : 5 ∣ (edit.clamped length).deleteCount.toNat := by omega
  exact ⟨startWhole, deleteWhole, by omega⟩

/-- An edit that replaces whole tokens inside the array is not changed by clamping. -/
theorem Aligned.clamped_eq
    {length : Nat}
    {edit : TokenEdit}
    (aligned : edit.Aligned length) :
    edit.clamped length = edit := by
  obtain ⟨startEq, deleteEq⟩ := edit.clamped_toNat length
  have within := aligned.within
  rw [Nat.div_mul_cancel aligned.start_dvd] at startEq
  rw [Nat.div_mul_cancel aligned.deleteCount_dvd] at deleteEq
  have sameStart : (edit.clamped length).start = edit.start := UInt32.toNat_inj.mp (by omega)
  have sameCount : (edit.clamped length).deleteCount = edit.deleteCount :=
    UInt32.toNat_inj.mp (by omega)
  calc edit.clamped length
      = ⟨(edit.clamped length).start, (edit.clamped length).deleteCount, edit.data⟩ := rfl
    _ = edit := by rw [sameStart, sameCount]

/-- One edit on tokens is the clamped edit on their numbers. -/
theorem flatten_apply (tokens : List WireToken) (edit : TokenEdit) :
    WireToken.flatten (apply tokens edit) =
      (edit.clamped (WireToken.flatten tokens).length).splice (WireToken.flatten tokens) := by
  obtain ⟨startEq, deleteEq⟩ := edit.clamped_toNat (WireToken.flatten tokens).length
  have startTokens :
      (edit.clamped (WireToken.flatten tokens).length).start.toNat =
        min (edit.start.toNat / WireToken.width) tokens.length * WireToken.width := by
    rw [startEq, WireToken.length_flatten, WireToken.width]
    omega
  have stopTokens :
      (edit.clamped (WireToken.flatten tokens).length).start.toNat +
          (edit.clamped (WireToken.flatten tokens).length).deleteCount.toNat =
        min (min (edit.start.toNat / WireToken.width) tokens.length +
          edit.deleteCount.toNat / WireToken.width) tokens.length * WireToken.width := by
    rw [deleteEq, startTokens, WireToken.length_flatten, WireToken.width]
    omega
  rw [splice, stopTokens, startTokens, WireToken.take_flatten, WireToken.drop_flatten, apply,
    WireToken.flatten_append, WireToken.flatten_append]
  rfl

/-- Clamped edits replace whole tokens of the arrays that they meet. -/
theorem alignedAll_clampedAll (edits : List TokenEdit) (tokens : List WireToken) :
    AlignedAll (clampedAll edits (WireToken.flatten tokens)) (WireToken.flatten tokens) := by
  induction edits generalizing tokens with
  | nil => exact trivial
  | cons edit rest inductionHypothesis =>
      have whole : WireToken.width ∣ (WireToken.flatten tokens).length := by
        rw [WireToken.length_flatten]
        exact Nat.dvd_mul_left _ _
      refine ⟨aligned_clamped whole edit, ?_⟩
      rw [← flatten_apply]
      exact inductionHypothesis (apply tokens edit)

/-- Edits that replace whole tokens of the arrays that they meet are not changed by clamping. -/
theorem AlignedAll.clampedAll_eq
    {edits : List TokenEdit}
    {words : List UInt32}
    (aligned : AlignedAll edits words) :
    clampedAll edits words = edits := by
  induction edits generalizing words with
  | nil => rfl
  | cons edit rest inductionHypothesis =>
      obtain ⟨first, others⟩ := aligned
      rw [clampedAll, first.clamped_eq, inductionHypothesis others]

/-- Edits on tokens are the clamped edits on their numbers. -/
theorem flatten_applyAll (edits : List TokenEdit) (tokens : List WireToken) :
    WireToken.flatten (applyAll edits tokens) =
      spliceAll (clampedAll edits (WireToken.flatten tokens)) (WireToken.flatten tokens) := by
  induction edits generalizing tokens with
  | nil => rfl
  | cons edit rest inductionHypothesis =>
      -- what this edit leaves is, as numbers, the array that the next one is clamped to
      have others := inductionHypothesis (apply tokens edit)
      rw [flatten_apply] at others
      exact others

/-- Edits on tokens and replacements of their numbers agree: as they stand, if every edit replaces
whole tokens of the array that it meets, and after clamping, which makes them such edits, in any
case. -/
theorem applyAll_splices_words (edits : List TokenEdit) (tokens : List WireToken) :
    (AlignedAll edits (WireToken.flatten tokens) →
        WireToken.flatten (applyAll edits tokens) =
          spliceAll edits (WireToken.flatten tokens)) ∧
      AlignedAll (clampedAll edits (WireToken.flatten tokens)) (WireToken.flatten tokens) ∧
      WireToken.flatten (applyAll edits tokens) =
        spliceAll (clampedAll edits (WireToken.flatten tokens)) (WireToken.flatten tokens) := by
  refine ⟨fun aligned => ?_, alignedAll_clampedAll edits tokens, flatten_applyAll edits tokens⟩
  rw [flatten_applyAll, aligned.clampedAll_eq]

def threeTokens : List WireToken :=
  [⟨0, 0, 1, 0, 0⟩, ⟨0, 2, 2, 0, 0⟩, ⟨0, 3, 3, 0, 0⟩]

/-- Makes two tokens of the second, and then deletes the last token where the array had ended. -/
def growThenDelete : List TokenEdit :=
  [⟨5, 5, some [⟨0, 2, 4, 0, 0⟩, ⟨0, 5, 5, 0, 0⟩]⟩, ⟨15, 5, none⟩]

/-- An edit that starts inside a token and deletes more than there is, and one behind the end. -/
def ragged : List TokenEdit :=
  [⟨7, 23, some [⟨1, 0, 6, 0, 0⟩]⟩, ⟨99, 4, some []⟩]

/-- Aligned edits whose second one depends on the first, and edits that have to be clamped. -/
theorem applyAll_splices_words_three :
    AlignedAll growThenDelete (WireToken.flatten threeTokens) ∧
      WireToken.flatten (applyAll growThenDelete threeTokens) =
        spliceAll growThenDelete (WireToken.flatten threeTokens) ∧
      ¬ AlignedAll ragged (WireToken.flatten threeTokens) ∧
      WireToken.flatten (applyAll ragged threeTokens) =
        spliceAll [⟨5, 10, some [⟨1, 0, 6, 0, 0⟩]⟩, ⟨10, 0, some []⟩]
          (WireToken.flatten threeTokens) := by
  have aligned : AlignedAll growThenDelete (WireToken.flatten threeTokens) := by decide
  have unaligned : ¬ AlignedAll ragged (WireToken.flatten threeTokens) := by decide
  have clampedEq : clampedAll ragged (WireToken.flatten threeTokens) =
      [⟨5, 10, some [⟨1, 0, 6, 0, 0⟩]⟩, ⟨10, 0, some []⟩] := by decide
  obtain ⟨asTheyStand, -, -⟩ := applyAll_splices_words growThenDelete threeTokens
  obtain ⟨-, -, afterClamping⟩ := applyAll_splices_words ragged threeTokens
  rw [clampedEq] at afterClamping
  exact ⟨aligned, asTheyStand aligned, unaligned, afterClamping⟩

end TokenEdit

end Highlight
