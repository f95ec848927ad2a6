import Highlight.Proofs.Text.Lines
import Highlight.Proofs.Token.Order
import Highlight.Token.Locate

/-!
Contract: what a located range covers.

Owns: the pieces that unwrapping and qualifiers leave of a covered text, and the
specification of `locate`: whatever it returns covers the name, character by
character, inside the columns of the span.
-/

set_option autoImplicit false

namespace Highlight

open Highlight.Text

/-! ### The text that a span covers -/

theorem between?_eq_some_iff (opening closing : Char) (text inner : List Char) :
    between? opening closing text = some inner ↔ text = opening :: inner ++ [closing] := by
  simp only [between?, Option.bind_eq_some_iff, afterPrefix?_eq_some_iff,
    beforeSuffix?_eq_some_iff]
  constructor
  · rintro ⟨rest, rfl, rfl⟩
    rfl
  · rintro rfl
    exact ⟨inner ++ [closing], rfl, rfl⟩

inductive Enclosure where
  | bare
  | parentheses
  | backquotes
  deriving DecidableEq, Repr

namespace Enclosure

def opening : Enclosure → List Char
  | bare => []
  | parentheses => ['(']
  | backquotes => ['\x60']

def closing : Enclosure → List Char
  | bare => []
  | parentheses => [')']
  | backquotes => ['\x60']

theorem byteLength_opening {enclosure : Enclosure} (notBare : enclosure ≠ bare) :
    byteLength enclosure.opening = 1 := by
  cases enclosure with
  | bare => exact absurd rfl notBare
  | parentheses => rfl
  | backquotes => rfl

end Enclosure

/-- An enclosure, with the blanks that stand inside it. Nothing stands around a bare text. -/
@[ext] structure Wrapping where
  enclosure : Enclosure
  leading : List Char
  trailing : List Char
  leading_blank : ∀ c ∈ leading, isBlank c = true
  trailing_blank : ∀ c ∈ trailing, isBlank c = true
  bare_tight : enclosure = .bare → leading = [] ∧ trailing = []

namespace Wrapping

def none : Wrapping where
  enclosure := .bare
  leading := []
  trailing := []
  leading_blank := by simp
  trailing_blank := by simp
  bare_tight := fun _ => ⟨rfl, rfl⟩

def before (wrapping : Wrapping) : List Char :=
  wrapping.enclosure.opening ++ wrapping.leading

def after (wrapping : Wrapping) : List Char :=
  wrapping.trailing ++ wrapping.enclosure.closing

end Wrapping

/-- Unwrapping takes off an enclosure. -/
theorem unwrapped?_eq_some
    {text inner : List Char}
    (found : unwrapped? text = some inner) :
    ∃ enclosure : Enclosure, enclosure ≠ .bare ∧
      text = enclosure.opening ++ inner ++ enclosure.closing := by
  rw [unwrapped?, Option.or_eq_some_iff] at found
  rcases found with parentheses | ⟨-, backquotes⟩
  · exact ⟨.parentheses, by decide, (between?_eq_some_iff _ _ _ _).mp parentheses⟩
  · exact ⟨.backquotes, by decide, (between?_eq_some_iff _ _ _ _).mp backquotes⟩

/-- What unwrapping leaves is the text inside a wrapping, at the byte offset returned with it. -/
theorem unwrap_spec (text : List Char) :
    ∃ wrapping : Wrapping,
      text = wrapping.before ++ (unwrap text).2 ++ wrapping.after ∧
        byteLength wrapping.before = (unwrap text).1 := by
  cases found : unwrapped? text with
  | none =>
      refine ⟨.none, ?_, ?_⟩
      · simp [unwrap, found, Wrapping.none, Wrapping.before, Wrapping.after, Enclosure.opening,
          Enclosure.closing]
      · simp [unwrap, found, Wrapping.none, Wrapping.before, Enclosure.opening]
  | some inner =>
      obtain ⟨enclosure, notBare, rfl⟩ := unwrapped?_eq_some found
      obtain ⟨leading, leadingEq, leadingBlank⟩ := exists_append_trimStart inner
      obtain ⟨trailing, trailingEq, trailingBlank⟩ := exists_trimEnd_append (trimStart inner)
      have innerEq : leading ++ (trim inner ++ trailing) = inner := by
        rw [trim, ← trailingEq]
        exact leadingEq.symm
      have offset : byteLength inner - byteLength (trimStart inner) = byteLength leading := by
        have total := congrArg byteLength leadingEq
        rw [byteLength_append] at total
        omega
      refine ⟨⟨enclosure, leading, trailing, leadingBlank, trailingBlank,
        fun isBare => absurd isBare notBare⟩, ?_, ?_⟩
      · simp only [unwrap, found, Wrapping.before, Wrapping.after]
        calc
          enclosure.opening ++ inner ++ enclosure.closing =
              enclosure.opening ++ (leading ++ (trim inner ++ trailing)) ++ enclosure.closing := by
            rw [innerEq]
          _ = enclosure.opening ++ leading ++ trim inner ++ (trailing ++ enclosure.closing) := by
            simp only [List.append_assoc]
      · simp only [unwrap, found, Wrapping.before, byteLength_append, offset,
          Enclosure.byteLength_opening notBare]

/-- The unwrapped text is tried first, and then the covered text itself. -/
theorem beforeName?_eq_or (covered spelling : List Char) :
    beforeName? covered spelling =
      ((beforeSuffix? (unwrap covered).2 spelling).map ((unwrap covered).1, ·)).or
        ((beforeSuffix? covered spelling).map (0, ·)) := by
  rw [beforeName?, List.findSome?_cons, List.findSome?_cons, List.findSome?_nil]
  obtain ⟨offset, inner⟩ := unwrap covered
  dsimp only
  cases beforeSuffix? inner spelling <;> cases beforeSuffix? covered spelling <;> rfl

/-- The name stands inside a wrapping of the covered text, behind what was found before it. -/
theorem beforeName?_eq_some
    {covered spelling qualifier : List Char}
    {offset : Nat}
    (found : beforeName? covered spelling = some (offset, qualifier)) :
    ∃ wrapping : Wrapping,
      covered = wrapping.before ++ qualifier ++ spelling ++ wrapping.after ∧
        byteLength wrapping.before = offset := by
  rw [beforeName?_eq_or, Option.or_eq_some_iff] at found
  rcases found with unwrapped | ⟨-, raw⟩
  · obtain ⟨front, ends, isResult⟩ := Option.map_eq_some_iff.mp unwrapped
    obtain ⟨rfl, rfl⟩ := Prod.mk.inj isResult
    obtain ⟨wrapping, coveredEq, size⟩ := unwrap_spec covered
    rw [(beforeSuffix?_eq_some_iff _ _ _).mp ends, ← List.append_assoc] at coveredEq
    exact ⟨wrapping, coveredEq, size⟩
  · obtain ⟨front, ends, isResult⟩ := Option.map_eq_some_iff.mp raw
    obtain ⟨rfl, rfl⟩ := Prod.mk.inj isResult
    refine ⟨.none, ?_, rfl⟩
    rw [(beforeSuffix?_eq_some_iff _ _ _).mp ends]
    simp [Wrapping.none, Wrapping.before, Wrapping.after, Enclosure.opening, Enclosure.closing]

/-! ### Located ranges -/

/-- The characters from one column up to another continue the line up to the first to the line up
to the second. -/
theorem take_append_drop_take
    (line : List Char)
    {start stop : Nat}
    (ordered : start ≤ stop) :
    line.take start ++ (line.take stop).drop start = line.take stop := by
  have cut := List.take_append_drop start (line.take stop)
  rwa [List.take_take, Nat.min_eq_left ordered] at cut

/-- Between the byte offsets of two columns stand the characters from the one up to the other. -/
theorem slice?_of_columns
    {line : List Char}
    {start stop startByte stopByte : Nat}
    (ordered : start ≤ stop)
    (startEq : byteOfColumn line start = some startByte)
    (stopEq : byteOfColumn line stop = some stopByte) :
    slice? line startByte stopByte = some ((line.take stop).drop start) := by
  obtain ⟨-, rfl⟩ := (byteOfColumn_eq_some_iff line start startByte).mp startEq
  obtain ⟨-, rfl⟩ := (byteOfColumn_eq_some_iff line stop stopByte).mp stopEq
  have pieces := slice?_append (line.take start) ((line.take stop).drop start) (line.drop stop)
  rwa [take_append_drop_take line ordered, List.take_append_drop] at pieces

/-- A name behind a known part of the line is measured in code units from that part. -/
theorem units_of_parts
    {line before spelling after : List Char}
    (lineEq : line = before ++ spelling ++ after)
    (number : UInt32) :
    ((unitOfByte line (byteLength before)).bind fun start =>
      (unitOfByte line (byteLength before + byteLength spelling)).bind fun stop =>
        some (TokenRange.mk number (UInt32.ofNat start) (UInt32.ofNat (stop - start)))) =
      some ⟨number, UInt32.ofNat (unitLength before), UInt32.ofNat (unitLength spelling)⟩ := by
  have startUnit : unitOfByte line (byteLength before) = some (unitLength before) := by
    rw [lineEq, List.append_assoc, unitOfByte_append]
  have stopUnit :
      unitOfByte line (byteLength before + byteLength spelling) =
        some (unitLength before + unitLength spelling) := by
    rw [lineEq, ← byteLength_append, unitOfByte_append, unitLength_append]
  rw [startUnit, stopUnit, Option.bind_some, Option.bind_some, Nat.add_sub_cancel_left]

/-- On a line that is not too long, the code units before a name and those of the name are numbers
of 32 bits. -/
theorem units_toNat
    {line before spelling after : List Char}
    (lineFits : unitLength line < 2 ^ 32)
    (lineEq : line = before ++ spelling ++ after) :
    (UInt32.ofNat (unitLength before)).toNat = unitLength before ∧
      (UInt32.ofNat (unitLength spelling)).toNat = unitLength spelling := by
  rw [lineEq, unitLength_append, unitLength_append] at lineFits
  constructor
  · exact UInt32.toNat_ofNat_of_lt' (show _ < 2 ^ 32 by omega)
  · exact UInt32.toNat_ofNat_of_lt' (show _ < 2 ^ 32 by omega)

def Span.covered (span : Span) (line : List Char) : List Char :=
  (line.take span.stop.column.toNat).drop span.start.column.toNat

/-- A line around the name that a span covers. -/
theorem Span.line_eq_of_covered
    {span : Span}
    (columns : span.start.column < span.stop.column)
    {line front spelling after : List Char}
    (covered : span.covered line = front ++ spelling ++ after) :
    line.take span.stop.column.toNat =
        line.take span.start.column.toNat ++ front ++ spelling ++ after ∧
      line =
        line.take span.start.column.toNat ++ front ++ spelling ++
          (after ++ line.drop span.stop.column.toNat) := by
  have ordered : span.start.column.toNat ≤ span.stop.column.toNat :=
    Nat.le_of_lt (UInt32.lt_iff_toNat_lt.mp columns)
  have upToStop :
      line.take span.stop.column.toNat =
        line.take span.start.column.toNat ++ front ++ spelling ++ after := by
    rw [← take_append_drop_take line ordered, ← Span.covered, covered]
    simp only [List.append_assoc]
  refine ⟨upToStop, ?_⟩
  rw [← List.append_assoc, ← upToStop, List.take_append_drop]

/-- How a name is found on the line of a span: what stands around it and before it in the covered
text, and the range that this gives. -/
structure FoundAt (line : List Char) (span : Span) (spelling : List Char) (wrapping : Wrapping)
    (qualifier : List Char) (range : TokenRange) : Prop where
  nonempty : spelling ≠ []
  singleLine : span.isSingleLine = true
  columns : span.start.column < span.stop.column
  withinLine : span.stop.column.toNat ≤ line.length
  found : beforeName? (span.covered line) spelling = some (byteLength wrapping.before, qualifier)
  covered : span.covered line = wrapping.before ++ qualifier ++ spelling ++ wrapping.after
  admitted : (qualifier.isEmpty || isQualifier qualifier) = true
  rangeEq : range = {
    line := span.start.line
    start := UInt32.ofNat
      (unitLength (line.take span.start.column.toNat ++ (wrapping.before ++ qualifier)))
    length := UInt32.ofNat (unitLength spelling) }

theorem FoundAt.locate_eq
    {table : LineTable}
    {span : Span}
    {line spelling qualifier : List Char}
    {wrapping : Wrapping}
    {range : TokenRange}
    (foundAt : FoundAt line span spelling wrapping qualifier range)
    (isLine : table.line span.start.line.toNat = some line) :
    locate table span spelling = some range := by
  have accepted :
      ¬ (spelling.isEmpty || !span.isSingleLine ||
        decide (span.stop.column ≤ span.start.column)) = true := by
    simp [foundAt.nonempty, foundAt.singleLine, foundAt.columns]
  have ordered : span.start.column.toNat < span.stop.column.toNat :=
    UInt32.lt_iff_toNat_lt.mp foundAt.columns
  have withinLine := foundAt.withinLine
  have startEq := (byteOfColumn_eq_some_iff line span.start.column.toNat _).mpr ⟨by omega, rfl⟩
  have stopEq := (byteOfColumn_eq_some_iff line span.stop.column.toNat _).mpr ⟨withinLine, rfl⟩
  have sliced := slice?_of_columns (Nat.le_of_lt ordered) startEq stopEq
  have nameStart :
      byteLength (line.take span.start.column.toNat) + byteLength wrapping.before +
          byteLength qualifier =
        byteLength (line.take span.start.column.toNat ++ (wrapping.before ++ qualifier)) := by
    rw [byteLength_append, byteLength_append, Nat.add_assoc]
  obtain ⟨-, whole⟩ := Span.line_eq_of_covered foundAt.columns foundAt.covered
  have measured := units_of_parts whole span.start.line
  rw [locate, if_neg accepted, foundAt.rangeEq, ← measured]
  simp only [Option.bind_eq_bind, isLine, startEq, stopEq, sliced, Option.bind_some]
  rw [← Span.covered, foundAt.found, Option.bind_some]
  simp only [foundAt.admitted, if_true, nameStart, Option.pure_def]

theorem exists_foundAt_of_locate
    {table : LineTable}
    {span : Span}
    {spelling : List Char}
    {range : TokenRange}
    (located : locate table span spelling = some range) :
    ∃ line, table.line span.start.line.toNat = some line ∧
      ∃ wrapping qualifier, FoundAt line span spelling wrapping qualifier range := by
  unfold locate at located
  split at located
  · cases located
  · next accepted =>
      simp only [Bool.or_eq_true, Bool.not_eq_true', decide_eq_true_eq, not_or,
        Bool.not_eq_false, List.isEmpty_iff, UInt32.not_le] at accepted
      obtain ⟨⟨nonempty, singleLine⟩, columns⟩ := accepted
      simp only [Option.bind_eq_bind, Option.bind_eq_some_iff] at located
      obtain ⟨line, isLine, startByte, startEq, stopByte, stopEq, covered, sliced,
        ⟨offset, qualifier⟩, found, located⟩ := located
      obtain ⟨-, startByteEq⟩ := (byteOfColumn_eq_some_iff line _ startByte).mp startEq
      obtain ⟨withinLine, -⟩ := (byteOfColumn_eq_some_iff line _ stopByte).mp stopEq
      have ordered : span.start.column.toNat ≤ span.stop.column.toNat :=
        Nat.le_of_lt (UInt32.lt_iff_toNat_lt.mp columns)
      rw [slice?_of_columns ordered startEq stopEq, ← Span.covered, Option.some.injEq] at sliced
      rw [← sliced] at found
      obtain ⟨wrapping, coveredEq, rfl⟩ := beforeName?_eq_some found
      obtain ⟨-, whole⟩ := Span.line_eq_of_covered columns coveredEq
      split at located
      · next admitted =>
          refine ⟨line, isLine, wrapping, qualifier, nonempty, singleLine, columns, withinLine,
            found, coveredEq, admitted, ?_⟩
          rw [startByteEq, ← byteLength_append, ← byteLength_append, List.append_assoc] at located
          exact Option.some.inj (located.symm.trans (units_of_parts whole span.start.line))
      · cases located

/-- A name is located exactly where it is found on the line of the span. -/
theorem locate_eq_some_iff
    (table : LineTable)
    (span : Span)
    (spelling : List Char)
    (range : TokenRange) :
    locate table span spelling = some range ↔
      ∃ line, table.line span.start.line.toNat = some line ∧
        ∃ wrapping qualifier, FoundAt line span spelling wrapping qualifier range := by
  constructor
  · exact exists_foundAt_of_locate
  · rintro ⟨line, isLine, wrapping, qualifier, foundAt⟩
    exact foundAt.locate_eq isLine

/-- The range covers a spelling on the line of a span, inside the columns of the span. What stands
before and behind the spelling on that line gives the range's columns. -/
structure CoversAt (line : List Char) (span : Span) (spelling : List Char) (range : TokenRange) :
    Prop where
  singleLine : span.isSingleLine = true
  sameLine : range.line = span.start.line
  nonempty : spelling ≠ []
  withinLine : span.stop.column.toNat ≤ line.length
  placed :
    ∃ before after,
      line = before ++ spelling ++ after ∧
        range.start.toNat = unitLength before ∧ range.length.toNat = unitLength spelling ∧
        line.take span.start.column.toNat <+: before ∧
        before ++ spelling <+: line.take span.stop.column.toNat

/-- Whatever is located covers the name on the line of the span, inside its columns. -/
theorem locate_spec
    {table : LineTable}
    (linesFit : table.LinesFit)
    {span : Span}
    {spelling : List Char}
    {range : TokenRange}
    (found : locate table span spelling = some range) :
    ∃ line, table.line span.start.line.toNat = some line ∧ CoversAt line span spelling range := by
  obtain ⟨line, isLine, wrapping, qualifier, foundAt⟩ := exists_foundAt_of_locate found
  obtain ⟨upToStop, whole⟩ := Span.line_eq_of_covered foundAt.columns foundAt.covered
  obtain ⟨startUnits, lengthUnits⟩ := units_toNat (linesFit _ line isLine) whole
  rw [foundAt.rangeEq]
  refine ⟨line, isLine, foundAt.singleLine, rfl, foundAt.nonempty, foundAt.withinLine, _, _, whole,
    startUnits, lengthUnits, List.prefix_append _ _, ?_⟩
  rw [upToStop]
  exact List.prefix_append _ _

end Highlight
