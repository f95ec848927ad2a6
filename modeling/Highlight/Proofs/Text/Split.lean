import Highlight.Proofs.Text.Lines
import Highlight.Text.Column

/-!
Contract: a text cut at its separators.

Owns: the agreement of the pieces of a text with the splitting of lists, and
from there the lines of a document as its pieces between line feeds. A reader of
a line names its number, and a writer of a text joins lines, so that neither
meets an offset.
-/

set_option autoImplicit false

namespace Highlight.Text

/-- The pieces of a text are those that splitting it at the separator leaves. -/
theorem pieces_eq_splitOn (separator : Char) (text : List Char) :
    pieces (· == separator) text = text.splitOn separator := by
  induction text with
  | nil => rfl
  | cons c rest inductionHypothesis =>
      rw [pieces, List.splitOn_cons_eq_if_modifyHead, inductionHypothesis]
      split
      · rfl
      · cases split : rest.splitOn separator with
        | nil => exact absurd split (List.splitOn_ne_nil separator rest)
        | cons first others => rfl

/-! ### Where lines start -/

/-- A text is one line, or a line in front of a line feed and a text. -/
theorem lines_induction
    {motive : List Char → Prop}
    (last : ∀ line, '\n' ∉ line → motive line)
    (next : ∀ line rest, '\n' ∉ line → motive rest → motive (line ++ '\n' :: rest))
    (text : List Char) :
    motive text := by
  have extended (front : List Char) (noBreak : '\n' ∉ front) : motive (front ++ text) := by
    induction text generalizing front with
    | nil =>
        rw [List.append_nil]
        exact last front noBreak
    | cons c rest inductionHypothesis =>
        by_cases isBreak : c = '\n'
        · rw [isBreak]
          exact next front rest noBreak (inductionHypothesis [] List.not_mem_nil)
        · rw [List.append_cons]
          refine inductionHypothesis (front ++ [c]) ?_
          rw [List.mem_append, List.mem_singleton]
          exact fun isIn => isIn.elim noBreak fun isLast => isBreak isLast.symm
  exact extended [] List.not_mem_nil

theorem startsAfter_append
    {line : List Char}
    (noBreak : '\n' ∉ line)
    (rest : List Char)
    (offset : Nat) :
    startsAfter (line ++ rest) offset = startsAfter rest (offset + byteLength line) := by
  induction line generalizing offset with
  | nil => rfl
  | cons c line inductionHypothesis =>
      obtain ⟨notFirst, notLater⟩ := not_or.mp (mt List.mem_cons.mpr noBreak)
      rw [List.cons_append, startsAfter, if_neg (fun isBreak => notFirst isBreak.symm),
        inductionHypothesis notLater, byteLength_cons, Nat.add_assoc]

theorem startsAfter_add (text : List Char) (offset shift : Nat) :
    startsAfter text (shift + offset) = (startsAfter text offset).map (shift + ·) := by
  induction text generalizing offset with
  | nil => rfl
  | cons c rest inductionHypothesis =>
      simp only [startsAfter, Nat.add_assoc, inductionHypothesis]
      split <;> rfl

theorem lineStarts_of_single {line : List Char} (noBreak : '\n' ∉ line) :
    lineStarts line = [0] := by
  have starts := startsAfter_append noBreak [] 0
  rw [List.append_nil] at starts
  rw [lineStarts, starts]
  rfl

/-- Behind a first line, the lines of the rest start where they do in the rest alone, shifted by
that line and its line feed. -/
theorem lineStarts_append
    {line : List Char}
    (noBreak : '\n' ∉ line)
    (rest : List Char) :
    lineStarts (line ++ '\n' :: rest) =
      0 :: (lineStarts rest).map (byteLength (line ++ ['\n']) + ·) := by
  have size : byteLength (line ++ ['\n']) = 0 + byteLength line + '\n'.utf8Size := by
    rw [byteLength_append, byteLength_cons, byteLength_nil]
    omega
  rw [lineStarts, startsAfter_append noBreak, startsAfter, if_pos rfl, lineStarts, List.map_cons,
    ← startsAfter_add, ← size]
  rfl

/-- As many lines start as splitting at the line feeds leaves pieces. -/
theorem length_lineStarts (text : List Char) :
    (lineStarts text).length = (text.splitOn '\n').length := by
  induction text using lines_induction with
  | last line noBreak =>
      rw [lineStarts_of_single noBreak, List.splitOn_eq_singleton noBreak, List.length_singleton,
        List.length_singleton]
  | next line rest noBreak inductionHypothesis =>
      rw [lineStarts_append noBreak, List.splitOn_append_cons_self_of_not_mem noBreak,
        List.length_cons, List.length_cons, List.length_map, inductionHypothesis]

/-- No line but the first starts at the front of the text. -/
theorem pos_of_getElem?_startsAfter
    {text : List Char}
    {offset number start : Nat}
    (isStart : (startsAfter text offset)[number]? = some start) :
    0 < start := by
  induction text generalizing offset number with
  | nil => simp [startsAfter] at isStart
  | cons c rest inductionHypothesis =>
      have size := c.utf8Size_pos
      rw [startsAfter] at isStart
      split at isStart
      · cases number with
        | zero =>
            have isFirst : offset + c.utf8Size = start := by simpa using isStart
            omega
        | succ number => exact inductionHypothesis isStart
      · exact inductionHypothesis isStart

/-! ### Lines are pieces -/

/-- The line of a document by its number: its piece between line feeds, without a carriage return
at the end. -/
def lineOf? (text : List Char) (number : Nat) : Option (List Char) :=
  (text.splitOn '\n')[number]?.map dropCarriageReturn

theorem slice?_front (line rest : List Char) :
    slice? (line ++ rest) 0 (byteLength line) = some line := by
  have sliced := slice?_append [] line rest
  rw [List.nil_append, byteLength_nil] at sliced
  exact sliced

namespace LineTable

theorem getElem?_starts_succ
    {line : List Char}
    (noBreak : '\n' ∉ line)
    (rest : List Char)
    (number : Nat) :
    (ofText (line ++ '\n' :: rest)).starts[number + 1]? =
      ((ofText rest).starts[number]?).map (byteLength (line ++ ['\n']) + ·) := by
  rw [ofText, ofText, lineStarts_append noBreak, List.getElem?_cons_succ, List.getElem?_map]

theorem stop_ofText_succ
    {line : List Char}
    (noBreak : '\n' ∉ line)
    (rest : List Char)
    (number : Nat) :
    (ofText (line ++ '\n' :: rest)).stop (number + 1) =
      byteLength (line ++ ['\n']) + (ofText rest).stop number := by
  rw [stop, stop, getElem?_starts_succ noBreak]
  cases isNext : (ofText rest).starts[number + 1]? with
  | none =>
      change byteLength (line ++ '\n' :: rest) = byteLength (line ++ ['\n']) + byteLength rest
      rw [← byteLength_append, List.append_assoc, List.singleton_append]
  | some next =>
      have isStart : (startsAfter rest 0)[number]? = some next := isNext
      have behind : 0 < next := pos_of_getElem?_startsAfter isStart
      change byteLength (line ++ ['\n']) + next - 1 = byteLength (line ++ ['\n']) + (next - 1)
      omega

/-- What stands on a line, a carriage return at its end included. -/
def content? (table : LineTable) (number : Nat) : Option (List Char) := do
  let start ← table.starts[number]?
  slice? table.text start (table.stop number)

theorem line_eq_map_content? (table : LineTable) (number : Nat) :
    table.line number = (table.content? number).map dropCarriageReturn := by
  rw [LineTable.line, content?]
  cases table.starts[number]? with
  | none => rfl
  | some start =>
      rw [Option.bind_eq_bind, Option.bind_eq_bind, Option.bind_some, Option.bind_some]
      cases slice? table.text start (table.stop number) <;> rfl

/-- Behind the first line stands what stands in the rest. -/
theorem content?_ofText_succ
    {line : List Char}
    (noBreak : '\n' ∉ line)
    (rest : List Char)
    (number : Nat) :
    (ofText (line ++ '\n' :: rest)).content? (number + 1) = (ofText rest).content? number := by
  have whole : (ofText (line ++ '\n' :: rest)).text = (line ++ ['\n']) ++ (ofText rest).text := by
    rw [List.append_assoc, List.singleton_append]
    rfl
  rw [content?, content?, getElem?_starts_succ noBreak, stop_ofText_succ noBreak, whole]
  cases (ofText rest).starts[number]? with
  | none => rfl
  | some start => exact slice?_append_add _ _ _ _

theorem content?_ofText_zero
    {line : List Char}
    (noBreak : '\n' ∉ line)
    (rest : List Char) :
    (ofText (line ++ '\n' :: rest)).content? 0 = some line := by
  have stopEq : (ofText (line ++ '\n' :: rest)).stop 0 = byteLength line := by
    have oneByte : byteLength ['\n'] = 1 := rfl
    rw [stop, ofText, lineStarts_append noBreak, lineStarts, byteLength_append, oneByte]
    rfl
  rw [content?, stopEq]
  exact slice?_front line ('\n' :: rest)

/-- The line table cuts a document into the pieces that splitting it at its line feeds leaves. -/
theorem content?_ofText (text : List Char) (number : Nat) :
    (ofText text).content? number = (text.splitOn '\n')[number]? := by
  induction text using lines_induction generalizing number with
  | last line noBreak =>
      rw [List.splitOn_eq_singleton noBreak, content?, ofText, lineStarts_of_single noBreak]
      cases number with
      | zero =>
          have sliced := slice?_front line []
          rw [List.append_nil] at sliced
          exact sliced
      | succ number => rfl
  | next line rest noBreak inductionHypothesis =>
      rw [List.splitOn_append_cons_self_of_not_mem noBreak]
      cases number with
      | zero => exact content?_ofText_zero noBreak rest
      | succ number =>
          rw [content?_ofText_succ noBreak, inductionHypothesis, List.getElem?_cons_succ]

/-- The line table finds the lines that splitting the document at its line feeds leaves. -/
theorem line_ofText (text : List Char) (number : Nat) :
    (ofText text).line number = lineOf? text number := by
  rw [line_eq_map_content?, content?_ofText, lineOf?]

/-- Every line that has a start is cut out of the document at two character boundaries. -/
theorem exists_slice?_of_start
    {text : List Char}
    {number start : Nat}
    (isStart : (ofText text).starts[number]? = some start) :
    ∃ content, slice? text start ((ofText text).stop number) = some content := by
  obtain ⟨inStarts, -⟩ := List.getElem?_eq_some_iff.mp isStart
  have inPieces : number < (text.splitOn '\n').length := by
    rw [← length_lineStarts]
    exact inStarts
  have isContent := content?_ofText text number
  rw [List.getElem?_eq_getElem inPieces, content?, isStart] at isContent
  exact ⟨_, isContent⟩

end LineTable

/-! ### Documents with some lines in common -/

/-- A document made of given lines has these lines. -/
theorem lineOf?_intercalate
    {lines : List (List Char)}
    (noBreaks : ∀ line ∈ lines, '\n' ∉ line)
    (nonempty : lines ≠ [])
    (number : Nat) :
    lineOf? (['\n'].intercalate lines) number = lines[number]?.map dropCarriageReturn := by
  rw [lineOf?, List.splitOn_intercalate '\n' noBreaks nonempty]

/-- A document has one line more than line feeds. -/
theorem length_splitOn_eq_count (text : List Char) :
    (text.splitOn '\n').length = text.count '\n' + 1 := by
  induction text with
  | nil => rfl
  | cons c rest inductionHypothesis =>
      rw [List.splitOn_cons_eq_if_modifyHead, List.count_cons]
      split
      · rw [List.length_cons, inductionHypothesis]
      · rw [List.length_modifyHead, inductionHypothesis]

/-- Lines that are added behind a document leave its own lines as they are. -/
theorem lineOf?_append
    (text added : List Char)
    {number : Nat}
    (isLine : number ≤ text.count '\n') :
    lineOf? (text ++ '\n' :: added) number = lineOf? text number := by
  have inPieces : number < (text.splitOn '\n').length := by
    rw [length_splitOn_eq_count]
    omega
  rw [lineOf?, lineOf?, List.splitOn_append_cons_self, List.getElem?_append_left inPieces]

/-- The text with a carriage return put in front of the line feeds that are chosen by number. -/
def withReturns (chosen : Nat → Bool) : List Char → List Char
  | [] => []
  | c :: rest =>
      if c = '\n' then
        (if chosen 0 then ['\r', '\n'] else ['\n']) ++
          withReturns (fun number => chosen (number + 1)) rest
      else c :: withReturns chosen rest

/-- A carriage return is dropped from the end of a line, and nothing else is. -/
theorem dropCarriageReturn_concat (front : List Char) (last : Char) :
    dropCarriageReturn (front ++ [last]) = if last = '\r' then front else front ++ [last] := by
  rw [dropCarriageReturn]
  split
  · next isReturn =>
      rw [isReturn, (beforeSuffix?_eq_some_iff _ _ front).mpr rfl]
      rfl
  · next notReturn =>
      cases ends : beforeSuffix? (front ++ [last]) ['\r'] with
      | none => rfl
      | some other =>
          have same := (beforeSuffix?_eq_some_iff _ _ other).mp ends
          have sameLast := (List.append_inj' same rfl).2
          exact absurd (List.singleton_inj.mp sameLast) notReturn

theorem dropCarriageReturn_cons
    {c : Char}
    (notReturn : c ≠ '\r')
    (line : List Char) :
    dropCarriageReturn (c :: line) = c :: dropCarriageReturn line := by
  rcases List.eq_nil_or_concat line with rfl | ⟨front, last, rfl⟩
  · have single := dropCarriageReturn_concat [] c
    rw [if_neg notReturn] at single
    exact single
  · rw [List.concat_eq_append, ← List.cons_append, dropCarriageReturn_concat,
      dropCarriageReturn_concat]
    split <;> rfl

theorem map_dropCarriageReturn_modifyHead
    {c : Char}
    (notReturn : c ≠ '\r')
    (lines : List (List Char)) :
    (lines.modifyHead (List.cons c)).map dropCarriageReturn =
      (lines.map dropCarriageReturn).modifyHead (List.cons c) := by
  cases lines with
  | nil => rfl
  | cons first others =>
      rw [List.modifyHead_cons, List.map_cons, List.map_cons, List.modifyHead_cons,
        dropCarriageReturn_cons notReturn]

/-- Carriage returns at the ends of lines are no part of the lines. -/
theorem map_dropCarriageReturn_withReturns
    (chosen : Nat → Bool)
    {text : List Char}
    (noReturns : '\r' ∉ text) :
    ((withReturns chosen text).splitOn '\n').map dropCarriageReturn =
      (text.splitOn '\n').map dropCarriageReturn := by
  induction text generalizing chosen with
  | nil => rfl
  | cons c rest inductionHypothesis =>
      obtain ⟨notReturn, restNoReturns⟩ := not_or.mp (mt List.mem_cons.mpr noReturns)
      rw [withReturns]
      split
      · next isBreak =>
          rw [isBreak, List.splitOn_cons_eq_if_modifyHead, if_pos (beq_self_eq_true _),
            List.map_cons, ← inductionHypothesis (fun number => chosen (number + 1)) restNoReturns]
          split
          · exact congrArg (List.map dropCarriageReturn)
              (List.splitOn_append_cons_self_of_not_mem (show '\n' ∉ ['\r'] by decide) _)
          · exact congrArg (List.map dropCarriageReturn)
              (List.splitOn_append_cons_self_of_not_mem List.not_mem_nil _)
      · next notBreak =>
          rw [List.splitOn_cons_eq_if_modifyHead, List.splitOn_cons_eq_if_modifyHead,
            if_neg (by simpa using notBreak), if_neg (by simpa using notBreak),
            map_dropCarriageReturn_modifyHead (Ne.symm notReturn),
            map_dropCarriageReturn_modifyHead (Ne.symm notReturn),
            inductionHypothesis chosen restNoReturns]

/-- Line feeds may be replaced by carriage returns with line feeds. -/
theorem lineOf?_withReturns
    (chosen : Nat → Bool)
    {text : List Char}
    (noReturns : '\r' ∉ text)
    (number : Nat) :
    lineOf? (withReturns chosen text) number = lineOf? text number := by
  rw [lineOf?, lineOf?, ← List.getElem?_map, ← List.getElem?_map,
    map_dropCarriageReturn_withReturns chosen noReturns]

end Highlight.Text
