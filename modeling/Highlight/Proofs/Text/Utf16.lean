import Highlight.Proofs.Text.Column

/-!
Contract: texts as sequences of UTF-16 code units.

Owns: the code units of a text, the strict reading of code units, which refuses
a surrogate without its other half, and slices of a line by code units. These
describe what an editor sees; the tokenizer itself only counts code units.
-/

set_option autoImplicit false

namespace Highlight.Text

/-- The code units of a character: its code point, or a surrogate pair. -/
def unitsOf (c : Char) : List UInt16 :=
  if c.toNat < 0x10000 then [UInt16.ofNat c.toNat]
  else
    [UInt16.ofNat (0xd800 + (c.toNat - 0x10000) / 0x400),
      UInt16.ofNat (0xdc00 + (c.toNat - 0x10000) % 0x400)]

def codeUnits (text : List Char) : List UInt16 :=
  text.flatMap unitsOf

def isHighSurrogate (unit : UInt16) : Bool :=
  0xd800 ≤ unit.toNat && unit.toNat < 0xdc00

def isLowSurrogate (unit : UInt16) : Bool :=
  0xdc00 ≤ unit.toNat && unit.toNat < 0xe000

def pairChar (high low : UInt16) : Char :=
  Char.ofNat (0x10000 + (high.toNat - 0xd800) * 0x400 + (low.toNat - 0xdc00))

/-- The text of a sequence of code units; none when half of a surrogate pair stands alone. -/
def ofCodeUnits? : List UInt16 → Option (List Char)
  | [] => some []
  | unit :: rest =>
      if isLowSurrogate unit then none
      else if isHighSurrogate unit then
        match rest with
        | [] => none
        | low :: rest =>
            if isLowSurrogate low then (ofCodeUnits? rest).map (pairChar unit low :: ·) else none
      else (ofCodeUnits? rest).map (Char.ofNat unit.toNat :: ·)

def unitSlice (line : List Char) (start length : Nat) : List UInt16 :=
  ((codeUnits line).drop start).take length

@[simp] theorem codeUnits_append (left right : List Char) :
    codeUnits (left ++ right) = codeUnits left ++ codeUnits right :=
  List.flatMap_append

theorem length_unitsOf (c : Char) : (unitsOf c).length = unitSize c := by
  unfold unitsOf unitSize
  split <;> rfl

@[simp] theorem length_codeUnits (text : List Char) :
    (codeUnits text).length = unitLength text := by
  induction text with
  | nil => rfl
  | cons c rest inductionHypothesis =>
      rw [codeUnits, List.flatMap_cons, List.length_append, length_unitsOf, unitLength_cons,
        ← inductionHypothesis, codeUnits]

/-- A code point below the surrogate pairs is read from its one code unit. -/
theorem ofCodeUnits?_single
    (c : Char)
    (small : c.toNat < 0x10000)
    (rest : List UInt16) :
    ofCodeUnits? (UInt16.ofNat c.toNat :: rest) = (ofCodeUnits? rest).map (c :: ·) := by
  have value : (UInt16.ofNat c.toNat).toNat = c.toNat := UInt16.toNat_ofNat_of_lt' small
  -- a character is no surrogate: its code point keeps out of that range
  have valid : c.toNat < 0xd800 ∨ 0xdfff < c.toNat ∧ c.toNat < 0x110000 := c.valid
  have notLow : isLowSurrogate (UInt16.ofNat c.toNat) = false := by
    simp only [isLowSurrogate, value, Bool.and_eq_false_iff, decide_eq_false_iff_not]
    omega
  have notHigh : isHighSurrogate (UInt16.ofNat c.toNat) = false := by
    simp only [isHighSurrogate, value, Bool.and_eq_false_iff, decide_eq_false_iff_not]
    omega
  rw [ofCodeUnits?.eq_def]
  simp only [notLow, notHigh, Bool.false_eq_true, ↓reduceIte, value, Char.ofNat_toNat]

/-- A code point beyond is read from its surrogate pair. -/
theorem ofCodeUnits?_pair
    (c : Char)
    (large : ¬ c.toNat < 0x10000)
    (rest : List UInt16) :
    ofCodeUnits?
        (UInt16.ofNat (0xd800 + (c.toNat - 0x10000) / 0x400) ::
          UInt16.ofNat (0xdc00 + (c.toNat - 0x10000) % 0x400) :: rest) =
      (ofCodeUnits? rest).map (c :: ·) := by
  have valid : c.toNat < 0xd800 ∨ 0xdfff < c.toNat ∧ c.toNat < 0x110000 := c.valid
  have highValue :
      (UInt16.ofNat (0xd800 + (c.toNat - 0x10000) / 0x400)).toNat =
        0xd800 + (c.toNat - 0x10000) / 0x400 :=
    UInt16.toNat_ofNat_of_lt' (show _ < 65536 by omega)
  have lowValue :
      (UInt16.ofNat (0xdc00 + (c.toNat - 0x10000) % 0x400)).toNat =
        0xdc00 + (c.toNat - 0x10000) % 0x400 :=
    UInt16.toNat_ofNat_of_lt' (show _ < 65536 by omega)
  have notLow : isLowSurrogate (UInt16.ofNat (0xd800 + (c.toNat - 0x10000) / 0x400)) = false := by
    simp only [isLowSurrogate, highValue, Bool.and_eq_false_iff, decide_eq_false_iff_not]
    omega
  have high : isHighSurrogate (UInt16.ofNat (0xd800 + (c.toNat - 0x10000) / 0x400)) = true := by
    simp only [isHighSurrogate, highValue, Bool.and_eq_true, decide_eq_true_eq]
    omega
  have low : isLowSurrogate (UInt16.ofNat (0xdc00 + (c.toNat - 0x10000) % 0x400)) = true := by
    simp only [isLowSurrogate, lowValue, Bool.and_eq_true, decide_eq_true_eq]
    omega
  have together :
      0x10000 + (0xd800 + (c.toNat - 0x10000) / 0x400 - 0xd800) * 0x400 +
          (0xdc00 + (c.toNat - 0x10000) % 0x400 - 0xdc00) = c.toNat := by
    omega
  rw [ofCodeUnits?, notLow, high]
  simp only [Bool.false_eq_true, ↓reduceIte, low, pairChar, highValue, lowValue, together,
    Char.ofNat_toNat]

/-- Reading the code units of a text gives the text back. -/
theorem ofCodeUnits?_codeUnits (text : List Char) :
    ofCodeUnits? (codeUnits text) = some text := by
  induction text with
  | nil => rfl
  | cons c rest inductionHypothesis =>
      have unfolded : codeUnits (c :: rest) = unitsOf c ++ codeUnits rest := List.flatMap_cons
      rw [unfolded, unitsOf]
      by_cases small : c.toNat < 0x10000
      · rw [if_pos small, List.cons_append, List.nil_append, ofCodeUnits?_single c small,
          inductionHypothesis]
        rfl
      · rw [if_neg small, List.cons_append, List.cons_append, List.nil_append,
          ofCodeUnits?_pair c small, inductionHypothesis]
        rfl

/-- The slice between two character boundaries holds the code units of what stands there. -/
theorem unitSlice_append (before middle after : List Char) :
    unitSlice (before ++ middle ++ after) (unitLength before) (unitLength middle) =
      codeUnits middle := by
  rw [unitSlice, codeUnits_append, codeUnits_append, List.append_assoc,
    ← length_codeUnits before, List.drop_left, ← length_codeUnits middle, List.take_left]

end Highlight.Text
