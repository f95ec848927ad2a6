import Highlight.Proofs.Text.Split
import Highlight.Proofs.Token.Locate

/-!
Contract: the forms in which a text holds a name.

Owns: the grammar of these forms, as readings of a text. A reading says what
encloses the name, which blanks stand inside and which segments qualify it.
A name is found exactly in the texts that have a reading, a text has one
reading at most, and the reading gives the range.

The unwrapped text is tried first and is kept even if its qualifier is refused.
This costs nothing: no uppercase character is a blank or opens an enclosure, so
a wrapped text that is also a bare name is that name itself, and too long to
stand inside it.
-/

set_option autoImplicit false

namespace Highlight

open Highlight.Text

/-! ### Qualifiers -/

/-- An uppercase character, then letters, digits, underscores and apostrophes. -/
def IsSegment : List Char → Prop
  | [] => False
  | first :: rest =>
      isUppercase first = true ∧ ∀ c ∈ rest, isAlphanumeric c = true ∨ c = '_' ∨ c = '\''

theorem isModuleSegment_iff (segment : List Char) :
    isModuleSegment segment = true ↔ IsSegment segment := by
  cases segment with
  | nil => simp [isModuleSegment, IsSegment]
  | cons first rest => simp [isModuleSegment, IsSegment, or_assoc]

instance (segment : List Char) : Decidable (IsSegment segment) :=
  decidable_of_iff _ (isModuleSegment_iff segment)

theorem IsSegment.point_notMem {segment : List Char} (isSegment : IsSegment segment) :
    '.' ∉ segment := by
  cases segment with
  | nil => exact List.not_mem_nil
  | cons first rest =>
      obtain ⟨upper, others⟩ := isSegment
      intro isIn
      rcases List.mem_cons.mp isIn with isFirst | isLater
      · rw [← isFirst] at upper
        exact absurd upper (by decide)
      · exact absurd (others '.' isLater) (by decide)

def qualifierOf (segments : List (List Char)) : List Char :=
  segments.flatMap (· ++ ['.'])

theorem qualifierOf_cons (segment : List Char) (rest : List (List Char)) :
    qualifierOf (segment :: rest) = segment ++ '.' :: qualifierOf rest := by
  rw [qualifierOf, List.flatMap_cons, List.append_assoc, List.singleton_append, ← qualifierOf]

theorem qualifierOf_eq_intercalate
    {segments : List (List Char)}
    (nonempty : segments ≠ []) :
    qualifierOf segments = ['.'].intercalate segments ++ ['.'] := by
  induction segments with
  | nil => exact absurd rfl nonempty
  | cons segment rest inductionHypothesis =>
      cases rest with
      | nil => simp [qualifierOf]
      | cons next others =>
          rw [qualifierOf_cons, inductionHypothesis (List.cons_ne_nil next others)]
          simp

/-- The segments can be read off the qualifier again. -/
theorem splitOn_qualifierOf
    {segments : List (List Char)}
    (valid : ∀ segment ∈ segments, IsSegment segment) :
    (qualifierOf segments).splitOn '.' = segments ++ [[]] := by
  induction segments with
  | nil => rfl
  | cons segment rest inductionHypothesis =>
      obtain ⟨isSegment, restValid⟩ := List.forall_mem_cons.mp valid
      rw [qualifierOf_cons, List.splitOn_append_cons_self_of_not_mem isSegment.point_notMem,
        inductionHypothesis restValid, List.cons_append]

/-- A qualifier is accepted exactly if it is made of segments. -/
theorem isQualifier_iff (text : List Char) :
    isQualifier text = true ↔
      ∃ segments, segments ≠ [] ∧ (∀ segment ∈ segments, IsSegment segment) ∧
        text = qualifierOf segments := by
  have accepts (body : List Char) :
      isQualifier (body ++ ['.']) = true ↔ ∀ segment ∈ body.splitOn '.', IsSegment segment := by
    rw [isQualifier, (beforeSuffix?_eq_some_iff _ _ body).mpr rfl]
    simp only [pieces_eq_splitOn, List.all_eq_true, isModuleSegment_iff]
  constructor
  · intro accepted
    cases ends : beforeSuffix? text ['.'] with
    | none => simp [isQualifier, ends] at accepted
    | some body =>
        have textEq := (beforeSuffix?_eq_some_iff _ _ _).mp ends
        rw [textEq, accepts] at accepted
        refine ⟨body.splitOn '.', List.splitOn_ne_nil _ _, accepted, ?_⟩
        rw [qualifierOf_eq_intercalate (List.splitOn_ne_nil _ _), List.intercalate_splitOn, textEq]
  · rintro ⟨segments, nonempty, valid, rfl⟩
    have noPoints : ∀ segment ∈ segments, '.' ∉ segment :=
      fun segment member => (valid segment member).point_notMem
    rw [qualifierOf_eq_intercalate nonempty, accepts,
      List.splitOn_intercalate '.' noPoints nonempty]
    exact valid

/-- What may stand before a name: nothing, or a qualifier. -/
theorem admitted_iff (qualifier : List Char) :
    (qualifier.isEmpty || isQualifier qualifier) = true ↔
      ∃ segments, (∀ segment ∈ segments, IsSegment segment) ∧
        qualifier = qualifierOf segments := by
  rw [Bool.or_eq_true, List.isEmpty_iff, isQualifier_iff]
  constructor
  · rintro (isEmpty | ⟨segments, -, valid, isQualifier⟩)
    · exact ⟨[], by simp, isEmpty⟩
    · exact ⟨segments, valid, isQualifier⟩
  · rintro ⟨segments, valid, isQualifier⟩
    by_cases nonempty : segments = []
    · rw [nonempty] at isQualifier
      exact Or.inl isQualifier
    · exact Or.inr ⟨segments, nonempty, valid, isQualifier⟩

/-- A qualifier that is not empty starts in uppercase. -/
theorem isUppercase_of_head?_qualifierOf
    {segments : List (List Char)}
    (valid : ∀ segment ∈ segments, IsSegment segment)
    {c : Char}
    (isFirst : c ∈ (qualifierOf segments).head?) :
    isUppercase c = true := by
  cases segments with
  | nil => cases isFirst
  | cons segment rest =>
      have isSegment := valid segment List.mem_cons_self
      cases segment with
      | nil => exact isSegment.elim
      | cons first others =>
          have same : first = c := by simpa [qualifierOf] using isFirst
          rw [← same]
          exact isSegment.1

/-- The code points in the ranges of a table. -/
theorem mem_flatMap_of_covers
    {ranges : List (Nat × Nat)}
    {code : Nat}
    (covered : covers ranges code = true) :
    code ∈ ranges.flatMap fun (first, last) => List.range' first (last + 1 - first) := by
  obtain ⟨⟨first, last⟩, member, within⟩ := List.any_eq_true.mp covered
  rw [Bool.and_eq_true, decide_eq_true_eq, decide_eq_true_eq] at within
  refine List.mem_flatMap.mpr ⟨(first, last), member, ?_⟩
  rw [List.mem_range'_1]
  omega

/-- No blank is an uppercase character. -/
theorem isBlank_eq_false_of_isUppercase {c : Char} (upper : isUppercase c = true) :
    isBlank c = false := by
  have noBlankIs : ∀ code ∈ blankRanges.flatMap fun (first, last) =>
      List.range' first (last + 1 - first), isUppercase (Char.ofNat code) = false := by
    decide +kernel
  rw [Bool.eq_false_iff]
  intro blank
  have notUpper := noBlankIs c.toNat (mem_flatMap_of_covers blank)
  rw [Char.ofNat_toNat, upper] at notUpper
  cases notUpper

/-! ### Readings -/

/-- A spelling that does not start or end in a blank. -/
structure IsVisible (spelling : List Char) : Prop where
  nonempty : spelling ≠ []
  first : ∀ c ∈ spelling.head?, isBlank c = false
  last : ∀ c ∈ spelling.getLast?, isBlank c = false

/-- A way to read a text as a name: what stands around it, and the segments of its qualifier. -/
structure Reading extends Wrapping where
  segments : List (List Char)
  segments_valid : ∀ segment ∈ segments, IsSegment segment

namespace Reading

def front (reading : Reading) : List Char :=
  reading.before ++ qualifierOf reading.segments

def text (reading : Reading) (spelling : List Char) : List Char :=
  reading.front ++ spelling ++ reading.after

end Reading

theorem unwrapped?_enclosed
    {enclosure : Enclosure}
    (notBare : enclosure ≠ .bare)
    (inner : List Char) :
    unwrapped? (enclosure.opening ++ inner ++ enclosure.closing) = some inner := by
  cases enclosure with
  | bare => exact absurd rfl notBare
  | parentheses =>
      have found : between? '(' ')' ('(' :: inner ++ [')']) = some inner :=
        (between?_eq_some_iff _ _ _ inner).mpr rfl
      change unwrapped? ('(' :: inner ++ [')']) = some inner
      rw [unwrapped?, found, Option.some_or]
  | backquotes =>
      have notParentheses : between? '(' ')' ('\x60' :: inner ++ ['\x60']) = none := by
        rw [Option.eq_none_iff_forall_ne_some]
        intro other isInner
        have sameFirst := (List.cons.inj ((between?_eq_some_iff _ _ _ other).mp isInner)).1
        exact absurd sameFirst (by decide)
      have found : between? '\x60' '\x60' ('\x60' :: inner ++ ['\x60']) = some inner :=
        (between?_eq_some_iff _ _ _ inner).mpr rfl
      change unwrapped? ('\x60' :: inner ++ ['\x60']) = some inner
      rw [unwrapped?, notParentheses, found, Option.none_or]

/-- An enclosed text with blanks around it is unwrapped to itself, at its byte offset. -/
theorem unwrap_wrapped
    (wrapping : Wrapping)
    (notBare : wrapping.enclosure ≠ .bare)
    {body : List Char}
    (visible : IsVisible body) :
    unwrap (wrapping.before ++ body ++ wrapping.after) = (byteLength wrapping.before, body) := by
  let inner := wrapping.leading ++ (body ++ wrapping.trailing)
  have whole :
      wrapping.before ++ body ++ wrapping.after =
        wrapping.enclosure.opening ++ inner ++ wrapping.enclosure.closing := by
    simp [inner, Wrapping.before, Wrapping.after]
  have startTrimmed : trimStart inner = body ++ wrapping.trailing := by
    refine trimStart_append wrapping.leading_blank ?_
    obtain ⟨first, rest, isBody⟩ := List.exists_cons_of_ne_nil visible.nonempty
    have firstVisible := visible.first
    rw [isBody] at firstVisible ⊢
    exact firstVisible
  have trimmed : trim inner = body := by
    rw [trim, startTrimmed]
    exact trimEnd_append wrapping.trailing_blank visible.last
  have offset : byteLength inner - byteLength (trimStart inner) = byteLength wrapping.leading := by
    rw [startTrimmed, byteLength_append]
    exact Nat.add_sub_cancel _ _
  rw [whole, unwrap, unwrapped?_enclosed notBare]
  simp only [trimmed, offset, Wrapping.before, byteLength_append,
    Enclosure.byteLength_opening notBare]

namespace Wrapping

theorem head?_before (wrapping : Wrapping) :
    wrapping.before.head? = wrapping.enclosure.opening.head? := by
  rw [before]
  cases isEnclosure : wrapping.enclosure with
  | bare =>
      rw [(wrapping.bare_tight isEnclosure).1]
      rfl
  | parentheses => rfl
  | backquotes => rfl

/-- The first character tells the enclosure, and the rest follows. -/
theorem eq_of_before_eq_of_after_eq
    {left right : Wrapping}
    (sameBefore : left.before = right.before)
    (sameAfter : left.after = right.after) :
    left = right := by
  have sameEnclosure : left.enclosure = right.enclosure := by
    have sameFirst := congrArg List.head? sameBefore
    rw [head?_before, head?_before] at sameFirst
    revert sameFirst
    cases left.enclosure <;> cases right.enclosure <;> decide
  rw [before, before, sameEnclosure] at sameBefore
  rw [after, after, sameEnclosure] at sameAfter
  exact Wrapping.ext sameEnclosure (List.append_cancel_left sameBefore)
    (List.append_cancel_right sameAfter)

end Wrapping

/-- What opens an enclosure is no uppercase character. -/
theorem head?_opening
    {enclosure : Enclosure}
    (notBare : enclosure ≠ .bare) :
    ∃ c, enclosure.opening = [c] ∧ isUppercase c = false := by
  cases enclosure with
  | bare => exact absurd rfl notBare
  | parentheses => exact ⟨'(', rfl, by decide⟩
  | backquotes => exact ⟨'\x60', rfl, by decide⟩

/-- A name that nothing stands around is found behind its qualifier, though it may itself look like
an enclosed text. -/
theorem beforeName?_bare
    {segments : List (List Char)}
    (valid : ∀ segment ∈ segments, IsSegment segment)
    (spelling : List Char) :
    beforeName? (qualifierOf segments ++ spelling) spelling = some (0, qualifierOf segments) := by
  have raw :
      beforeSuffix? (qualifierOf segments ++ spelling) spelling = some (qualifierOf segments) :=
    (beforeSuffix?_eq_some_iff _ _ _).mpr rfl
  rw [beforeName?_eq_or, raw]
  cases found : unwrapped? (qualifierOf segments ++ spelling) with
  | none => simp [unwrap, found, raw]
  | some inner =>
      obtain ⟨enclosure, notBare, whole⟩ := unwrapped?_eq_some found
      obtain ⟨opening, isOpening, notUpper⟩ := head?_opening notBare
      have noQualifier : qualifierOf segments = [] := by
        cases qualifier : qualifierOf segments with
        | nil => rfl
        | cons first rest =>
            have upper : isUppercase first = true :=
              isUppercase_of_head?_qualifierOf valid (by rw [qualifier]; rfl)
            rw [qualifier, isOpening] at whole
            rw [(List.cons.inj whole).1, notUpper] at upper
            cases upper
      have tooShort :
          beforeSuffix? (unwrap (qualifierOf segments ++ spelling)).2 spelling = none := by
        rw [Option.eq_none_iff_forall_ne_some]
        intro other isOther
        have innerEq := (beforeSuffix?_eq_some_iff _ _ _).mp isOther
        simp only [unwrap, found] at innerEq
        have innerLength := congrArg List.length innerEq
        have wholeLength := congrArg List.length whole
        have trimLength := length_trim_le inner
        rw [noQualifier, isOpening] at wholeLength
        simp only [List.length_append, List.length_cons, List.length_nil] at innerLength wholeLength
        omega
      rw [tooShort]
      rfl

theorem IsVisible.qualified
    {spelling : List Char}
    (visible : IsVisible spelling)
    {segments : List (List Char)}
    (valid : ∀ segment ∈ segments, IsSegment segment) :
    IsVisible (qualifierOf segments ++ spelling) where
  nonempty := List.append_ne_nil_of_right_ne_nil _ visible.nonempty
  first := by
    intro c isFirst
    rw [List.head?_append, Option.mem_def, Option.or_eq_some_iff] at isFirst
    rcases isFirst with inQualifier | ⟨-, inSpelling⟩
    · exact isBlank_eq_false_of_isUppercase (isUppercase_of_head?_qualifierOf valid inQualifier)
    · exact visible.first c inSpelling
  last := by
    intro c isLast
    rw [List.getLast?_append, Option.mem_def, Option.or_eq_some_iff] at isLast
    rcases isLast with inSpelling | ⟨noSpelling, -⟩
    · exact visible.last c inSpelling
    · exact absurd (List.getLast?_eq_none_iff.mp noSpelling) visible.nonempty

namespace Reading

theorem eq_nil_of_bare
    {reading : Reading}
    (isBare : reading.enclosure = .bare) :
    reading.before = [] ∧ reading.after = [] := by
  obtain ⟨noLeading, noTrailing⟩ := reading.bare_tight isBare
  rw [Wrapping.before, Wrapping.after, isBare, noLeading, noTrailing]
  exact ⟨rfl, rfl⟩

/-- What has a reading is found: the unwrapped text and the covered text do not stand in each
other's way. -/
theorem beforeName?_text
    (reading : Reading)
    {spelling : List Char}
    (visible : IsVisible spelling) :
    beforeName? (reading.text spelling) spelling =
      some (byteLength reading.before, qualifierOf reading.segments) := by
  by_cases isBare : reading.enclosure = .bare
  · obtain ⟨nothingBefore, nothingAfter⟩ := eq_nil_of_bare isBare
    rw [text, front, nothingBefore, nothingAfter, List.nil_append, List.append_nil]
    exact beforeName?_bare reading.segments_valid spelling
  · have whole :
        reading.text spelling =
          reading.before ++ (qualifierOf reading.segments ++ spelling) ++ reading.after := by
      simp [text, front]
    have unwrapped := unwrap_wrapped reading.toWrapping isBare
      (visible.qualified reading.segments_valid)
    rw [beforeName?_eq_or, whole, unwrapped, (beforeSuffix?_eq_some_iff _ _ _).mpr rfl]
    rfl

/-- What is found, behind nothing or a qualifier, has a reading. -/
theorem exists_text_eq
    {covered spelling qualifier : List Char}
    {offset : Nat}
    (found : beforeName? covered spelling = some (offset, qualifier))
    (admitted : (qualifier.isEmpty || isQualifier qualifier) = true) :
    ∃ reading : Reading, reading.text spelling = covered := by
  obtain ⟨wrapping, coveredEq, -⟩ := beforeName?_eq_some found
  obtain ⟨segments, valid, rfl⟩ := (admitted_iff qualifier).mp admitted
  exact ⟨⟨wrapping, segments, valid⟩, coveredEq.symm⟩

/-- A text has one reading as a name at most. -/
theorem eq_of_text_eq
    {left right : Reading}
    {spelling : List Char}
    (visible : IsVisible spelling)
    (sameText : left.text spelling = right.text spelling) :
    left = right := by
  have sameFound := left.beforeName?_text visible
  rw [sameText, right.beforeName?_text visible] at sameFound
  obtain ⟨sameSize, sameQualifier⟩ := Prod.mk.inj (Option.some.inj sameFound)
  have sameSegments : left.segments = right.segments := by
    have sameSplit := congrArg (List.splitOn '.') sameQualifier
    rw [splitOn_qualifierOf left.segments_valid, splitOn_qualifierOf right.segments_valid]
      at sameSplit
    exact (List.append_inj' sameSplit rfl).1.symm
  -- Both readings put the same number of bytes of one text in front of the qualifier.
  have sameBefore : left.before = right.before := by
    have sameParts := sameText
    simp only [text, front, List.append_assoc] at sameParts
    exact eq_of_append_eq_of_byteLength_eq sameParts sameSize.symm
  have sameFront : left.front = right.front := by
    rw [front, front, sameBefore, sameSegments]
  have sameAfter : left.after = right.after := by
    rw [text, text, sameFront] at sameText
    exact List.append_cancel_left sameText
  have sameWrapping := Wrapping.eq_of_before_eq_of_after_eq sameBefore sameAfter
  cases left
  cases right
  simp only [Reading.mk.injEq]
  exact ⟨sameWrapping, sameSegments⟩

end Reading

/-! ### Spans and readings -/

/-- The span covers a part of a line of the text: it starts and stops on that line, is not empty,
and does not run past the end. -/
structure Span.LiesOn (span : Span) (text line : List Char) : Prop where
  singleLine : span.isSingleLine = true
  columns : span.start.column < span.stop.column
  isLine : lineOf? text span.start.line.toNat = some line
  withinLine : span.stop.column.toNat ≤ line.length

section

variable {text line spelling : List Char} {span : Span} {range : TokenRange}

/-- A reading of the covered text gives the range. -/
theorem Reading.locate_eq
    (lies : span.LiesOn text line)
    (visible : IsVisible spelling)
    {reading : Reading}
    (isRead : reading.text spelling = span.covered line) :
    locate (LineTable.ofText text) span spelling = some {
      line := span.start.line
      start := UInt32.ofNat (unitLength (line.take span.start.column.toNat ++ reading.front))
      length := UInt32.ofNat (unitLength spelling) } := by
  refine (locate_eq_some_iff _ _ _ _).mpr ⟨line, ?_, reading.toWrapping,
    qualifierOf reading.segments, visible.nonempty, lies.singleLine, lies.columns, lies.withinLine,
    ?_, isRead.symm, ?_, rfl⟩
  · rw [LineTable.line_ofText]
    exact lies.isLine
  · rw [← isRead]
    exact reading.beforeName?_text visible
  · exact (admitted_iff _).mpr ⟨reading.segments, reading.segments_valid, rfl⟩

/-- Whatever is located lies on a line and has a reading there. -/
theorem exists_reading_of_locate
    (located : locate (LineTable.ofText text) span spelling = some range) :
    ∃ line, span.LiesOn text line ∧
      ∃ reading : Reading, reading.text spelling = span.covered line := by
  obtain ⟨line, isLine, wrapping, qualifier, foundAt⟩ := exists_foundAt_of_locate located
  rw [LineTable.line_ofText] at isLine
  exact ⟨line, ⟨foundAt.singleLine, foundAt.columns, isLine, foundAt.withinLine⟩,
    Reading.exists_text_eq foundAt.found foundAt.admitted⟩

theorem Span.LiesOn.line_eq
    {other : List Char}
    (lies : span.LiesOn text line)
    (liesToo : span.LiesOn text other) :
    line = other :=
  Option.some.inj (lies.isLine.symm.trans liesToo.isLine)

end

/-- A name is located exactly where the covered text has a reading. There is one reading at most,
and the range starts behind what it puts in front of the name. Where a span does not lie on a line,
nothing is located. Every cut, of a line out of the text and of the covered text out of a line, is
made at character boundaries. -/
theorem locate_accepts_readings
    (text : List Char)
    (linesFit : (LineTable.ofText text).LinesFit)
    (span : Span)
    (spelling : List Char)
    (visible : IsVisible spelling) :
    (∀ line, span.LiesOn text line →
      ((locate (LineTable.ofText text) span spelling).isSome ↔
        ∃ reading : Reading, reading.text spelling = span.covered line) ∧
      ∀ reading : Reading, reading.text spelling = span.covered line →
        (∀ other : Reading, other.text spelling = span.covered line → other = reading) ∧
        ∃ range, locate (LineTable.ofText text) span spelling = some range ∧
          range.line = span.start.line ∧
          range.start.toNat = unitLength (line.take span.start.column.toNat ++ reading.front) ∧
          range.length.toNat = unitLength spelling) ∧
    ((¬ ∃ line, span.LiesOn text line) →
      locate (LineTable.ofText text) span spelling = none) ∧
    (∀ number start, (LineTable.ofText text).starts[number]? = some start →
      ∃ content, slice? text start ((LineTable.ofText text).stop number) = some content) ∧
    ∀ line startByte stopByte,
      (LineTable.ofText text).line span.start.line.toNat = some line →
      span.start.column < span.stop.column →
      byteOfColumn line span.start.column.toNat = some startByte →
      byteOfColumn line span.stop.column.toNat = some stopByte →
      slice? line startByte stopByte = some (span.covered line) := by
  refine ⟨fun line lies => ⟨⟨fun isLocated => ?_, ?_⟩, fun reading isRead => ⟨?_, ?_⟩⟩, ?_,
    fun number start => LineTable.exists_slice?_of_start, ?_⟩
  · obtain ⟨range, located⟩ := Option.isSome_iff_exists.mp isLocated
    obtain ⟨found, liesToo, hasReading⟩ := exists_reading_of_locate located
    rw [lies.line_eq liesToo]
    exact hasReading
  · rintro ⟨reading, isRead⟩
    rw [reading.locate_eq lies visible isRead]
    rfl
  · exact fun other isReadToo => Reading.eq_of_text_eq visible (isReadToo.trans isRead.symm)
  · obtain ⟨-, whole⟩ := Span.line_eq_of_covered lies.columns isRead.symm
    have lineFits := linesFit _ line ((LineTable.line_ofText _ _).trans lies.isLine)
    obtain ⟨startUnits, lengthUnits⟩ := units_toNat lineFits whole
    exact ⟨_, reading.locate_eq lies visible isRead, rfl, startUnits, lengthUnits⟩
  · intro liesNowhere
    rw [Option.eq_none_iff_forall_ne_some]
    intro range located
    obtain ⟨line, lies, -⟩ := exists_reading_of_locate located
    exact liesNowhere ⟨line, lies⟩
  · intro line startByte stopByte _ columns startEq stopEq
    exact slice?_of_columns (Nat.le_of_lt (UInt32.lt_iff_toNat_lt.mp columns)) startEq stopEq

/-- A point as a name, qualified and in parentheses, behind a character of two code units. -/
def pointText : List Char :=
  ['𝕏', ' ', '(', ' ', 'M', '.', 'N', '.', '.', ' ', ')']

def pointSpan : Span :=
  ⟨⟨0, 2⟩, ⟨0, 11⟩⟩

def pointReading : Reading where
  enclosure := .parentheses
  leading := [' ']
  trailing := [' ']
  leading_blank := List.forall_mem_singleton.mpr (by decide)
  trailing_blank := List.forall_mem_singleton.mpr (by decide)
  bare_tight := by decide
  segments := [['M'], ['N']]
  segments_valid := by decide

/-- Only the last of three points is the name. A span that takes in one column more than the line
has locates nothing. -/
theorem locate_accepts_readings_point :
    (LineTable.ofText pointText).LinesFit ∧ IsVisible ['.'] ∧
      pointSpan.LiesOn pointText pointText ∧
      pointReading.text ['.'] = pointSpan.covered pointText ∧
      (∃ range, locate (LineTable.ofText pointText) pointSpan ['.'] = some range ∧
        range.start.toNat = 9 ∧ range.length.toNat = 1) ∧
      (∀ other : Reading, other.text ['.'] = pointSpan.covered pointText → other = pointReading) ∧
      locate (LineTable.ofText pointText) ⟨⟨0, 2⟩, ⟨0, 12⟩⟩ ['.'] = none := by
  have linesFit : (LineTable.ofText pointText).LinesFit :=
    LineTable.linesFit_of_unitLength_lt (by decide)
  have notBlank : isBlank '.' = false := by decide
  have visible : IsVisible ['.'] :=
    ⟨by decide, by rintro c ⟨⟩; exact notBlank, by rintro c ⟨⟩; exact notBlank⟩
  have isLine : lineOf? pointText 0 = some pointText := by decide
  have lies : pointSpan.LiesOn pointText pointText := ⟨rfl, by decide, isLine, by decide⟩
  have isRead : pointReading.text ['.'] = pointSpan.covered pointText := by decide
  obtain ⟨within, -, -, -⟩ := locate_accepts_readings pointText linesFit pointSpan ['.'] visible
  obtain ⟨unique, range, located, -, start, length⟩ :=
    (within pointText lies).2 pointReading isRead
  obtain ⟨-, beyond, -, -⟩ :=
    locate_accepts_readings pointText linesFit ⟨⟨0, 2⟩, ⟨0, 12⟩⟩ ['.'] visible
  refine ⟨linesFit, visible, lies, isRead, ⟨range, located, start, length⟩, unique, beyond ?_⟩
  rintro ⟨line, past⟩
  rw [← Option.some.inj (isLine.symm.trans past.isLine)] at past
  exact absurd past.withinLine (by decide)

end Highlight
