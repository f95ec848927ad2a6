import Highlight.Proofs.Text.Utf16
import Highlight.Text.Utf8

/-!
Contract: both column conversions, measured on the encoded line.

Owns: the shape of an encoded character, the places between characters among the
bytes of a text, and the laws of the conversions against the bytes and the code
units themselves. A place between characters is told from the bytes alone: it is
not past their end, and the byte behind it, if there is one, starts a character.

Does not own: cutting a text at such places.
-/

set_option autoImplicit false

namespace Highlight.Text

/-! ### Bytes of a text -/

theorem utf8Bytes_cons (c : Char) (rest : List Char) :
    utf8Bytes (c :: rest) = String.utf8EncodeChar c ++ utf8Bytes rest :=
  List.flatMap_cons

@[simp] theorem utf8Bytes_append (left right : List Char) :
    utf8Bytes (left ++ right) = utf8Bytes left ++ utf8Bytes right :=
  List.flatMap_append

@[simp] theorem length_utf8Bytes (text : List Char) :
    (utf8Bytes text).length = byteLength text := by
  induction text with
  | nil => rfl
  | cons c rest inductionHypothesis =>
      rw [utf8Bytes_cons, List.length_append, String.length_utf8EncodeChar, inductionHypothesis,
        byteLength_cons]

theorem isContinuation_ofNat_iff {value : Nat} (small : value < 256) :
    isContinuation (UInt8.ofNat value) = true ↔ 128 ≤ value ∧ value ≤ 191 := by
  simp [isContinuation, UInt8.le_iff_toNat_le, UInt8.toNat_ofNat_of_lt' small]

/-- An encoded character is a first byte and the bytes that continue it. -/
theorem exists_utf8EncodeChar_eq_cons (c : Char) :
    ∃ first following,
      String.utf8EncodeChar c = first :: following ∧
        isContinuation first = false ∧ ∀ byte ∈ following, isContinuation byte = true := by
  have continues (value : Nat) : isContinuation (UInt8.ofNat (value % 64 + 128)) = true :=
    (isContinuation_ofNat_iff (by omega)).mpr (by omega)
  have starts {value : Nat} (small : value < 256) (outside : value < 128 ∨ 191 < value) :
      isContinuation (UInt8.ofNat value) = false := by
    rw [Bool.eq_false_iff, Ne, isContinuation_ofNat_iff small]
    omega
  unfold String.utf8EncodeChar
  generalize c.val.toNat = value
  dsimp only
  -- one case for each number of bytes
  split
  · exact ⟨_, [], rfl, starts (by omega) (by omega), by simp⟩
  split
  · refine ⟨_, [_], rfl, starts (by omega) (by omega), ?_⟩
    exact List.forall_mem_singleton.mpr (continues _)
  split
  · refine ⟨_, [_, _], rfl, starts (by omega) (by omega), ?_⟩
    exact List.forall_mem_cons.mpr ⟨continues _, List.forall_mem_singleton.mpr (continues _)⟩
  · refine ⟨_, [_, _, _], rfl, starts (by omega) (by omega), ?_⟩
    exact List.forall_mem_cons.mpr ⟨continues _,
      List.forall_mem_cons.mpr ⟨continues _, List.forall_mem_singleton.mpr (continues _)⟩⟩

/-! ### Places between characters -/

/-- A place between two characters, or at either end, told from the bytes. -/
def IsBoundary (bytes : List UInt8) (place : Nat) : Prop :=
  place ≤ bytes.length ∧ ∀ byte ∈ bytes[place]?, isContinuation byte = false

instance (bytes : List UInt8) (place : Nat) : Decidable (IsBoundary bytes place) :=
  decidable_of_iff
    (place ≤ bytes.length ∧ bytes[place]?.all (fun byte => !isContinuation byte) = true)
    (by simp [IsBoundary, Option.all_eq_true])

theorem isBoundary_append_iff (left right : List UInt8) (place : Nat) :
    IsBoundary (left ++ right) (left.length + place) ↔ IsBoundary right place := by
  unfold IsBoundary
  rw [List.length_append, Nat.add_le_add_iff_left,
    List.getElem?_append_right (Nat.le_add_right _ _), Nat.add_sub_cancel_left]

theorem isBoundary_zero (text : List Char) : IsBoundary (utf8Bytes text) 0 := by
  refine ⟨Nat.zero_le _, fun byte isFirst => ?_⟩
  cases text with
  | nil => cases isFirst
  | cons c rest =>
      obtain ⟨first, following, encoded, starts, -⟩ := exists_utf8EncodeChar_eq_cons c
      rw [utf8Bytes_cons, encoded] at isFirst
      obtain rfl := Option.some.inj isFirst
      exact starts

/-- A place inside a character has one of its continuing bytes behind it. -/
theorem not_isBoundary_inside
    (c : Char)
    (rest : List Char)
    {place : Nat}
    (positive : 0 < place)
    (inside : place < c.utf8Size) :
    ¬ IsBoundary (utf8Bytes (c :: rest)) place := by
  intro boundary
  obtain ⟨first, following, encoded, -, continues⟩ := exists_utf8EncodeChar_eq_cons c
  have size := String.length_utf8EncodeChar c
  rw [encoded, List.length_cons] at size
  obtain ⟨index, rfl⟩ : ∃ index, place = index + 1 := ⟨place - 1, by omega⟩
  have within : index < following.length := by omega
  have behind : (utf8Bytes (c :: rest))[index + 1]? = some following[index] := by
    rw [utf8Bytes_cons, encoded, List.cons_append, List.getElem?_cons_succ,
      List.getElem?_append_left within, List.getElem?_eq_getElem within]
  have starts := boundary.2 _ behind
  rw [continues _ (List.getElem_mem within)] at starts
  cases starts

/-- The places between characters are the ends of the initial parts. -/
theorem isBoundary_utf8Bytes_iff (text : List Char) (place : Nat) :
    IsBoundary (utf8Bytes text) place ↔
      ∃ front rest, text = front ++ rest ∧ place = byteLength front := by
  constructor
  · intro boundary
    induction text generalizing place with
    | nil =>
        have atStart : place ≤ 0 := boundary.1
        exact ⟨[], [], rfl, Nat.le_zero.mp atStart⟩
    | cons c tail inductionHypothesis =>
        by_cases isZero : place = 0
        · exact ⟨[], c :: tail, rfl, isZero⟩
        by_cases inside : place < c.utf8Size
        · exact absurd boundary (not_isBoundary_inside c tail (by omega) inside)
        -- the place lies behind the first character, hence among the bytes of the others
        obtain ⟨later, rfl⟩ := Nat.exists_eq_add_of_le (Nat.le_of_not_lt inside)
        rw [utf8Bytes_cons, ← String.length_utf8EncodeChar, isBoundary_append_iff] at boundary
        obtain ⟨front, rest, rfl, rfl⟩ := inductionHypothesis later boundary
        exact ⟨c :: front, rest, rfl, rfl⟩
  · rintro ⟨front, rest, rfl, rfl⟩
    have shifted := isBoundary_append_iff (utf8Bytes front) (utf8Bytes rest) 0
    rw [length_utf8Bytes, Nat.add_zero] at shifted
    rw [utf8Bytes_append, shifted]
    exact isBoundary_zero rest

/-! ### Conversions -/

/-- Of two initial parts of a line, the longer one in bytes is the longer one in code units. -/
theorem unitLength_lt_of_byteLength_lt
    {line left right : List Char}
    (isLeft : left <+: line)
    (isRight : right <+: line)
    (less : byteLength left < byteLength right) :
    unitLength left < unitLength right := by
  rcases List.prefix_or_prefix_of_prefix isLeft isRight with ⟨more, rfl⟩ | ⟨more, rfl⟩
  · have nonempty : more ≠ [] := by
      rintro rfl
      simp at less
    have grows := unitLength_pos nonempty
    rw [unitLength_append]
    omega
  · rw [byteLength_append] at less
    omega

theorem byteLength_take_lt
    {line : List Char}
    {column next : Nat}
    (less : column < next)
    (within : next ≤ line.length) :
    byteLength (line.take column) < byteLength (line.take next) := by
  obtain ⟨more, grown⟩ := List.take_prefix_take_left (l := line) (Nat.le_of_lt less)
  have nonempty : more ≠ [] := by
    rintro rfl
    have lengths := congrArg List.length grown
    simp only [List.append_nil, List.length_take] at lengths
    omega
  have grows := byteLength_pos nonempty
  rw [← grown, byteLength_append]
  omega

/-- The conversions of a line are exact. A column has a byte offset when it is not past the end, and
that is the number of bytes of the characters before it. A byte offset has a column in code units
when it lies between characters, and that is the number of code units of the text in front. Both
increase strictly, and one after the other they take every column of the line to the number of code
units of the characters before it. -/
theorem columns_converted_exactly (line : List Char) :
    (∀ column : Nat, byteOfColumn line column =
      if column ≤ line.length then some (utf8Bytes (line.take column)).length else none) ∧
      (∀ offset : Nat, IsBoundary (utf8Bytes line) offset →
        ∃ front, front <+: line ∧ utf8Bytes front = (utf8Bytes line).take offset ∧
          unitOfByte line offset = some (codeUnits front).length) ∧
      (∀ offset : Nat, ¬ IsBoundary (utf8Bytes line) offset → unitOfByte line offset = none) ∧
      (∀ column next byte nextByte : Nat, byteOfColumn line column = some byte →
        byteOfColumn line next = some nextByte → column < next → byte < nextByte) ∧
      (∀ offset next units nextUnits : Nat, unitOfByte line offset = some units →
        unitOfByte line next = some nextUnits → offset < next → units < nextUnits) ∧
      ∀ column : Nat, column ≤ line.length →
        ∃ byte, byteOfColumn line column = some byte ∧
          unitOfByte line byte = some (codeUnits (line.take column)).length := by
  refine ⟨fun column => ?_, fun offset boundary => ?_, fun offset noBoundary => ?_, ?_, ?_,
    fun column within => ?_⟩
  · by_cases within : column ≤ line.length
    · rw [if_pos within, length_utf8Bytes, byteOfColumn_eq_some_iff]
      exact ⟨within, rfl⟩
    · rw [if_neg within, Option.eq_none_iff_forall_ne_some]
      exact fun byte converted => within ((byteOfColumn_eq_some_iff _ _ _).mp converted).1
  · obtain ⟨front, rest, rfl, rfl⟩ := (isBoundary_utf8Bytes_iff line offset).mp boundary
    refine ⟨front, List.prefix_append _ _, ?_, ?_⟩
    · rw [utf8Bytes_append, ← length_utf8Bytes, List.take_left]
    · rw [length_codeUnits, unitOfByte_append]
  · rw [Option.eq_none_iff_forall_ne_some]
    intro units converted
    obtain ⟨front, rest, split, atEnd, -⟩ := (unitOfByte_eq_some_iff _ _ _).mp converted
    exact noBoundary ((isBoundary_utf8Bytes_iff line offset).mpr ⟨front, rest, split, atEnd⟩)
  · intro column next byte nextByte converted nextConverted less
    obtain ⟨-, rfl⟩ := (byteOfColumn_eq_some_iff _ _ _).mp converted
    obtain ⟨within, rfl⟩ := (byteOfColumn_eq_some_iff _ _ _).mp nextConverted
    exact byteLength_take_lt less within
  · intro offset next units nextUnits converted nextConverted less
    obtain ⟨front, rest, split, rfl, rfl⟩ := (unitOfByte_eq_some_iff _ _ _).mp converted
    obtain ⟨more, others, nextSplit, rfl, rfl⟩ := (unitOfByte_eq_some_iff _ _ _).mp nextConverted
    exact unitLength_lt_of_byteLength_lt ⟨rest, split.symm⟩ ⟨others, nextSplit.symm⟩ less
  · refine ⟨byteLength (line.take column), ?_, ?_⟩
    · exact (byteOfColumn_eq_some_iff _ _ _).mpr ⟨within, rfl⟩
    · have whole := unitOfByte_append (line.take column) (line.drop column)
      rwa [List.take_append_drop, ← length_codeUnits] at whole

/-- Characters of one, two and four bytes; the last one takes two code units. -/
def mixedLine : List Char := ['a', 'é', '𝕏']

/-- The last character starts at byte 3 and ends at byte 7, which is code unit 4. Byte 5 lies inside
it and has no column, and there is no column behind it. -/
theorem columns_converted_exactly_mixed :
    IsBoundary (utf8Bytes mixedLine) 3 ∧
      (∃ front, front <+: mixedLine ∧ utf8Bytes front = (utf8Bytes mixedLine).take 3 ∧
        unitOfByte mixedLine 3 = some (codeUnits front).length) ∧
      ¬ IsBoundary (utf8Bytes mixedLine) 5 ∧
      unitOfByte mixedLine 5 = none ∧
      byteOfColumn mixedLine 2 = some 3 ∧
      byteOfColumn mixedLine 3 = some 7 ∧
      unitOfByte mixedLine 7 = some 4 ∧
      byteOfColumn mixedLine 4 = none := by
  obtain ⟨bytes, between, inside, -, -, composed⟩ := columns_converted_exactly mixedLine
  have atThree : IsBoundary (utf8Bytes mixedLine) 3 := by decide
  have atFive : ¬ IsBoundary (utf8Bytes mixedLine) 5 := by decide
  have lastByte : byteOfColumn mixedLine 3 = some 7 := (bytes 3).trans rfl
  obtain ⟨byte, isByte, isUnit⟩ := composed 3 (by decide)
  obtain rfl : byte = 7 := Option.some.inj (isByte.symm.trans lastByte)
  exact ⟨atThree, between 3 atThree, atFive, inside 5 atFive, (bytes 2).trans rfl, lastByte,
    isUnit.trans rfl, (bytes 4).trans rfl⟩

end Highlight.Text
