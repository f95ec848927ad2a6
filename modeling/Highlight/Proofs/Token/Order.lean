import Highlight.Token.Wire
import Mathlib.Algebra.Group.Nat.Defs

/-!
Contract: ranges that follow one another in a document.

Owns: the relation "comes entirely before" between ranges, the ranges whose end
is a column, and the meaning of the two tests on neighbouring ranges. The tests
compute with 32 bits and the relation with natural numbers; for a range that
fits, they say the same.
-/

set_option autoImplicit false

namespace Highlight

namespace TokenRange

/-- The column after the range is a number of 32 bits. -/
def Fits (range : TokenRange) : Prop :=
  range.start.toNat + range.length.toNat < 2 ^ 32

/-- The range is on an earlier line, or on the same line and ends where the other starts or
before. -/
def Precedes (earlier later : TokenRange) : Prop :=
  earlier.line < later.line ∨
    earlier.line = later.line ∧ earlier.start.toNat + earlier.length.toNat ≤ later.start.toNat

instance (range : TokenRange) : Decidable range.Fits :=
  inferInstanceAs (Decidable (_ < _))

instance (earlier later : TokenRange) : Decidable (earlier.Precedes later) :=
  inferInstanceAs (Decidable (_ ∨ _))

theorem precedes_iff_toNat (earlier later : TokenRange) :
    earlier.Precedes later ↔
      earlier.line.toNat < later.line.toNat ∨
        earlier.line.toNat = later.line.toNat ∧
          earlier.start.toNat + earlier.length.toNat ≤ later.start.toNat := by
  rw [Precedes, UInt32.lt_iff_toNat_lt, ← UInt32.toNat_inj]

theorem Precedes.trans
    {first second third : TokenRange}
    (firstSecond : first.Precedes second)
    (secondThird : second.Precedes third) :
    first.Precedes third := by
  rw [precedes_iff_toNat] at firstSecond secondThird ⊢
  omega

theorem stop_toNat {range : TokenRange} (fits : range.Fits) :
    range.stop.toNat = range.start.toNat + range.length.toNat := by
  rw [stop, UInt32.toNat_add]
  exact Nat.mod_eq_of_lt fits

theorem startsInside_iff
    {earlier : TokenRange}
    (fits : earlier.Fits)
    (range : TokenRange) :
    range.startsInside earlier = true ↔
      earlier.line = range.line ∧
        range.start.toNat < earlier.start.toNat + earlier.length.toNat := by
  rw [startsInside, Bool.and_eq_true, beq_iff_eq, decide_eq_true_eq, UInt32.lt_iff_toNat_lt,
    stop_toNat fits]

/-- On an earlier line or the same one, a range that does not start inside another comes after
it. -/
theorem precedes_of_not_startsInside
    {earlier range : TokenRange}
    (fits : earlier.Fits)
    (lines : earlier.line ≤ range.line)
    (outside : range.startsInside earlier = false) :
    earlier.Precedes range := by
  have apart : ¬ (earlier.line = range.line ∧
      range.start.toNat < earlier.start.toNat + earlier.length.toNat) := by
    rw [← startsInside_iff fits, outside]
    decide
  rw [UInt32.le_iff_toNat_le] at lines
  rw [← UInt32.toNat_inj] at apart
  rw [precedes_iff_toNat]
  omega

end TokenRange

/-- The encoder refuses a neighbour exactly when it does not come after the range before it. -/
theorem Encoding.isOutOfOrder_some_iff
    {earlier : TokenRange}
    (fits : earlier.Fits)
    (range : TokenRange) :
    isOutOfOrder (some earlier) range = true ↔ ¬ earlier.Precedes range := by
  rw [isOutOfOrder, Option.any_some, Bool.or_eq_true, decide_eq_true_eq,
    TokenRange.startsInside_iff fits, TokenRange.precedes_iff_toNat, UInt32.lt_iff_toNat_lt,
    ← UInt32.toNat_inj]
  omega

namespace RangedToken

/-- Every token of the list comes entirely before every later one. -/
def InOrder (tokens : List RangedToken) : Prop :=
  tokens.Pairwise fun earlier later => earlier.range.Precedes later.range

instance (tokens : List RangedToken) : Decidable (InOrder tokens) :=
  inferInstanceAs (Decidable (tokens.Pairwise _))

def AllAfter (last : Option TokenRange) (tokens : List RangedToken) : Prop :=
  ∀ earlier ∈ last, ∀ token ∈ tokens, earlier.Precedes token.range

/-- In a list in order, what comes before the first token comes before all of them. -/
theorem allAfter_cons_iff
    (last : Option TokenRange)
    {token : RangedToken}
    {rest : List RangedToken}
    (restAfter : AllAfter (some token.range) rest) :
    AllAfter last (token :: rest) ↔ ∀ earlier ∈ last, earlier.Precedes token.range := by
  constructor
  · intro after earlier isLast
    exact after earlier isLast token List.mem_cons_self
  · intro firstAfter earlier isLast other member
    rcases List.mem_cons.mp member with rfl | inRest
    · exact firstAfter earlier isLast
    · exact (firstAfter earlier isLast).trans (restAfter token.range rfl other inRest)

theorem inOrder_cons_iff (token : RangedToken) (rest : List RangedToken) :
    InOrder (token :: rest) ↔ AllAfter (some token.range) rest ∧ InOrder rest := by
  rw [InOrder, List.pairwise_cons, AllAfter, InOrder]
  simp

end RangedToken

end Highlight
