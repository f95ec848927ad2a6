import Highlight.Proofs.Text.Boundary
import Highlight.Proofs.Text.Split

/-!
Contract: the offsets of a line table against the bytes of its document.

Owns: which offsets the table lists, and what the bytes between two of them are.
A line starts at the front of the document and behind every line feed, nowhere
else. Every cut that the table makes lies between characters, and the pieces,
joined by line feeds, are the document.

Does not own: which piece a line is. That is the splitting of the document.
-/

set_option autoImplicit false

namespace Highlight.Text

/-! ### Which offsets are listed -/

/-- A line feed of a text is its first character, or one of the rest. -/
theorem exists_break_cons_iff (c : Char) (rest : List Char) (reaches : List Char → Prop) :
    (∃ before after, c :: rest = before ++ '\n' :: after ∧ reaches before) ↔
      (c = '\n' ∧ reaches []) ∨
        ∃ before after, rest = before ++ '\n' :: after ∧ reaches (c :: before) := by
  constructor
  · rintro ⟨before, after, textEq, reached⟩
    cases before with
    | nil =>
        obtain ⟨isBreak, -⟩ := List.cons.inj textEq
        exact Or.inl ⟨isBreak, reached⟩
    | cons first before =>
        obtain ⟨rfl, restEq⟩ := List.cons.inj textEq
        exact Or.inr ⟨before, after, restEq, reached⟩
  · rintro (⟨rfl, reached⟩ | ⟨before, after, rfl, reached⟩)
    · exact ⟨[], rest, rfl, reached⟩
    · exact ⟨c :: before, after, rfl, reached⟩

/-- Lines start behind the line feeds. -/
theorem mem_startsAfter_iff (text : List Char) (offset place : Nat) :
    place ∈ startsAfter text offset ↔
      ∃ before after, text = before ++ '\n' :: after ∧
        place = offset + byteLength (before ++ ['\n']) := by
  induction text generalizing offset with
  | nil => simp [startsAfter]
  | cons c rest inductionHypothesis =>
      rw [exists_break_cons_iff c rest fun before => place = offset + byteLength (before ++ ['\n']),
        startsAfter]
      by_cases isBreak : c = '\n'
      · rw [if_pos isBreak, List.mem_cons, inductionHypothesis]
        simp [isBreak, Nat.add_assoc]
      · rw [if_neg isBreak, inductionHypothesis]
        simp [isBreak, Nat.add_assoc]

theorem mem_lineStarts_iff (text : List Char) (place : Nat) :
    place ∈ lineStarts text ↔
      place = 0 ∨ ∃ before after, text = before ++ '\n' :: after ∧
        place = byteLength (before ++ ['\n']) := by
  rw [lineStarts, List.mem_cons, mem_startsAfter_iff]
  simp only [Nat.zero_add]

theorem lineStarts_increasing (text : List Char) : (lineStarts text).Pairwise (· < ·) := by
  induction text using lines_induction with
  | last line noBreak =>
      rw [lineStarts_of_single noBreak]
      exact List.pairwise_singleton _ _
  | next line rest noBreak inductionHypothesis =>
      rw [lineStarts_append noBreak, List.pairwise_cons, List.pairwise_map]
      refine ⟨fun later isLater => ?_, inductionHypothesis.imp fun less => ?_⟩
      · obtain ⟨start, -, rfl⟩ := List.mem_map.mp isLater
        have size : 0 < byteLength (line ++ ['\n']) := byteLength_pos (by simp)
        omega
      · omega

/-! ### What is cut out -/

/-- Two places between the characters of a text, one not behind the other, and the piece whose bytes
stand from the first to the second. -/
structure IsCut (text : List Char) (start stop : Nat) (piece : List Char) : Prop where
  ordered : start ≤ stop
  startBetween : IsBoundary (utf8Bytes text) start
  stopBetween : IsBoundary (utf8Bytes text) stop
  bytes : utf8Bytes piece = ((utf8Bytes text).take stop).drop start

theorem isCut_of_slice?
    {text piece : List Char}
    {start stop : Nat}
    (sliced : slice? text start stop = some piece) :
    IsCut text start stop piece := by
  obtain ⟨before, after, rfl, rfl, rfl⟩ := exists_append_of_slice? sliced
  refine ⟨?_, ?_, ?_, ?_⟩
  · rw [byteLength_append]
    exact Nat.le_add_right _ _
  · rw [isBoundary_utf8Bytes_iff]
    exact ⟨before, piece ++ after, List.append_assoc _ _ _, rfl⟩
  · rw [isBoundary_utf8Bytes_iff]
    exact ⟨before ++ piece, after, rfl, rfl⟩
  · rw [← length_utf8Bytes, ← length_utf8Bytes, utf8Bytes_append (before ++ piece), List.take_left,
      utf8Bytes_append, List.drop_left]

/-- One carriage return is dropped where there is one at the end, and nothing else is. -/
theorem dropCarriageReturn_eq_iff (piece line : List Char) :
    dropCarriageReturn piece = line ↔
      piece = line ++ ['\r'] ∨ piece = line ∧ piece.getLast? ≠ some '\r' := by
  rcases List.eq_nil_or_concat piece with rfl | ⟨front, last, rfl⟩
  · have nothing : dropCarriageReturn [] = [] := rfl
    rw [nothing]
    simp
  · rw [List.concat_eq_append, dropCarriageReturn_concat, List.getLast?_concat]
    by_cases isReturn : last = '\r'
    · simp [isReturn]
    · simp [isReturn]

namespace LineTable

/-- A line with a start is cut out of the document as the piece of its number. -/
theorem exists_isCut_of_start
    {text : List Char}
    {number start : Nat}
    (isStart : (lineStarts text)[number]? = some start) :
    ∃ piece, (text.splitOn '\n')[number]? = some piece ∧
      slice? text start ((ofText text).stop number) = some piece ∧
      IsCut text start ((ofText text).stop number) piece := by
  obtain ⟨piece, sliced⟩ := exists_slice?_of_start isStart
  refine ⟨piece, ?_, sliced, isCut_of_slice? sliced⟩
  have starts : (ofText text).starts[number]? = some start := isStart
  rw [← content?_ofText, content?, starts]
  exact sliced

/-- A document has lines up to the number of its line feeds. -/
theorem line_ofText_eq_none_iff (text : List Char) (number : Nat) :
    (ofText text).line number = none ↔ text.count '\n' < number := by
  rw [line_ofText, lineOf?, Option.map_eq_none_iff, List.getElem?_eq_none_iff,
    length_splitOn_eq_count]
  omega

theorem line_ofText_eq_some_iff (text : List Char) (number : Nat) (line : List Char) :
    (ofText text).line number = some line ↔
      ∃ piece, (text.splitOn '\n')[number]? = some piece ∧
        (piece = line ++ ['\r'] ∨ piece = line ∧ piece.getLast? ≠ some '\r') := by
  simp only [line_ofText, lineOf?, Option.map_eq_some_iff, dropCarriageReturn_eq_iff]

end LineTable

/-- The line table of a text is the splitting of the text at its line feeds. Its offsets increase
from zero on, and the others are those behind the line feeds. The line of a number is the piece of
that number, without one carriage return at its end, and there is none past the number of line
feeds. Each piece is cut out at two places between characters, and the pieces joined by line feeds
are the text. -/
theorem line_table_splits_text (text : List Char) :
    (lineStarts text).Pairwise (· < ·) ∧
      (lineStarts text).head? = some 0 ∧
      (∀ place : Nat, place ∈ lineStarts text ↔
        place = 0 ∨ ∃ before after, text = before ++ '\n' :: after ∧
          place = (utf8Bytes (before ++ ['\n'])).length) ∧
      (∀ number : Nat,
        (LineTable.ofText text).line number = none ↔ text.count '\n' < number) ∧
      (∀ (number : Nat) (line : List Char), (LineTable.ofText text).line number = some line ↔
        ∃ piece, (text.splitOn '\n')[number]? = some piece ∧
          (piece = line ++ ['\r'] ∨ piece = line ∧ piece.getLast? ≠ some '\r')) ∧
      (∀ number start : Nat, (lineStarts text)[number]? = some start →
        ∃ piece, (text.splitOn '\n')[number]? = some piece ∧
          slice? text start ((LineTable.ofText text).stop number) = some piece ∧
          IsCut text start ((LineTable.ofText text).stop number) piece) ∧
      ['\n'].intercalate (text.splitOn '\n') = text := by
  refine ⟨lineStarts_increasing text, rfl, fun place => ?_,
    LineTable.line_ofText_eq_none_iff text, LineTable.line_ofText_eq_some_iff text,
    fun number start => LineTable.exists_isCut_of_start, List.intercalate_splitOn '\n'⟩
  simp only [length_utf8Bytes]
  exact mem_lineStarts_iff text place

/-- A character of two bytes with one carriage return behind it, a line of two carriage returns, and
a line feed at the end. -/
def returnsText : List Char := ['é', '\r', '\n', '\r', '\r', '\n']

/-- The first line loses its carriage return, the second keeps one of two, and the last is empty. -/
theorem line_table_splits_text_returns :
    lineStarts returnsText = [0, 4, 7] ∧
      (LineTable.ofText returnsText).line 0 = some ['é'] ∧
      (LineTable.ofText returnsText).line 1 = some ['\r'] ∧
      (LineTable.ofText returnsText).line 2 = some [] ∧
      (LineTable.ofText returnsText).line 3 = none ∧
      IsCut returnsText 4 6 ['\r', '\r'] := by
  obtain ⟨-, -, -, isNone, isSome, cut, -⟩ := line_table_splits_text returnsText
  have pieces : returnsText.splitOn '\n' = [['é', '\r'], ['\r', '\r'], []] := by decide
  simp only [pieces] at isSome cut
  obtain ⟨piece, isPiece, -, isCut⟩ := cut 1 4 (by decide)
  obtain rfl : ['\r', '\r'] = piece := Option.some.inj isPiece
  refine ⟨by decide, ?_, ?_, ?_, (isNone 3).mpr (by decide), isCut⟩
  · exact (isSome 0 _).mpr ⟨['é', '\r'], rfl, Or.inl rfl⟩
  · exact (isSome 1 _).mpr ⟨['\r', '\r'], rfl, Or.inl rfl⟩
  · exact (isSome 2 _).mpr ⟨[], rfl, Or.inr ⟨rfl, by decide⟩⟩

end Highlight.Text
