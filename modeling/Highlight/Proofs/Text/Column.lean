import Highlight.Text.Character
import Highlight.Text.Column

/-!
Contract: what the conversions between columns, bytes and code units return.

Owns: additivity of the two measures, the exact image of every conversion, and
the pieces that cutting a text leaves. Each conversion is described by the
characters in front of the place it names, so that callers reason about
concatenations and never about offsets.
-/

set_option autoImplicit false

namespace Highlight.Text

/-! ### The two measures -/

@[simp] theorem byteLength_nil : byteLength [] = 0 := rfl

@[simp] theorem byteLength_cons (c : Char) (rest : List Char) :
    byteLength (c :: rest) = c.utf8Size + byteLength rest := rfl

@[simp] theorem byteLength_append (left right : List Char) :
    byteLength (left ++ right) = byteLength left + byteLength right := by
  induction left with
  | nil => simp
  | cons c rest inductionHypothesis =>
      rw [List.cons_append, byteLength_cons, byteLength_cons, inductionHypothesis]
      omega

theorem byteLength_pos {text : List Char} (nonempty : text ≠ []) : 0 < byteLength text := by
  cases text with
  | nil => exact absurd rfl nonempty
  | cons c rest =>
      have size := c.utf8Size_pos
      rw [byteLength_cons]
      omega

@[simp] theorem unitLength_nil : unitLength [] = 0 := rfl

@[simp] theorem unitLength_cons (c : Char) (rest : List Char) :
    unitLength (c :: rest) = unitSize c + unitLength rest := rfl

@[simp] theorem unitLength_append (left right : List Char) :
    unitLength (left ++ right) = unitLength left + unitLength right := by
  induction left with
  | nil => simp
  | cons c rest inductionHypothesis =>
      rw [List.cons_append, unitLength_cons, unitLength_cons, inductionHypothesis]
      omega

theorem unitSize_pos (c : Char) : 0 < unitSize c := by
  unfold unitSize
  split <;> decide

theorem unitLength_pos {text : List Char} (nonempty : text ≠ []) : 0 < unitLength text := by
  cases text with
  | nil => exact absurd rfl nonempty
  | cons c rest =>
      rw [unitLength_cons]
      have first := unitSize_pos c
      omega

/-- An initial part is no longer than the whole, in code units. -/
theorem unitLength_le_of_isPrefix {front text : List Char} (isFront : front <+: text) :
    unitLength front ≤ unitLength text := by
  obtain ⟨rest, rfl⟩ := isFront
  rw [unitLength_append]
  exact Nat.le_add_right _ _

/-! ### Conversions -/

/-- A column has a byte offset exactly when it is not past the end, and that offset is the size
of the characters before it. -/
theorem byteOfColumn_eq_some_iff (line : List Char) (column byte : Nat) :
    byteOfColumn line column = some byte ↔
      column ≤ line.length ∧ byte = byteLength (line.take column) := by
  induction line generalizing column byte with
  | nil =>
      cases column with
      | zero => simp [byteOfColumn, eq_comm]
      | succ column => simp [byteOfColumn]
  | cons c rest inductionHypothesis =>
      cases column with
      | zero => simp [byteOfColumn, eq_comm]
      | succ column =>
          simp only [byteOfColumn, Option.map_eq_some_iff, inductionHypothesis, List.length_cons,
            List.take_succ_cons, byteLength_cons]
          constructor
          · rintro ⟨inner, ⟨within, rfl⟩, rfl⟩
            exact ⟨by omega, rfl⟩
          · rintro ⟨within, rfl⟩
            exact ⟨_, ⟨by omega, rfl⟩, rfl⟩

theorem unitOfByte_cons (c : Char) (rest : List Char) (offset : Nat) :
    unitOfByte (c :: rest) (c.utf8Size + offset) =
      (unitOfByte rest offset).map (unitSize c + ·) := by
  have size := c.utf8Size_pos
  rw [unitOfByte]
  · rw [if_pos (Nat.le_add_right _ _), Nat.add_sub_cancel_left]
  · omega

/-- The code units before a place between two characters, found from the bytes before it. -/
theorem unitOfByte_append (before after : List Char) :
    unitOfByte (before ++ after) (byteLength before) = some (unitLength before) := by
  induction before with
  | nil => cases after <;> rfl
  | cons c rest inductionHypothesis =>
      rw [List.cons_append, byteLength_cons, unitOfByte_cons, inductionHypothesis]
      rfl

/-- A byte offset has a column exactly when an initial part ends there, and the column is the size
of that part in code units. -/
theorem unitOfByte_eq_some_iff (line : List Char) (offset units : Nat) :
    unitOfByte line offset = some units ↔
      ∃ front rest, line = front ++ rest ∧ offset = byteLength front ∧
        units = unitLength front := by
  constructor
  · intro converted
    fun_induction unitOfByte line offset generalizing units with
    | case1 line => exact ⟨[], line, rfl, rfl, (Option.some.inj converted).symm⟩
    | case2 => cases converted
    | case3 c tail offset positive fits inductionHypothesis =>
        obtain ⟨later, isLater, rfl⟩ := Option.map_eq_some_iff.mp converted
        obtain ⟨front, rest, rfl, atEnd, rfl⟩ := inductionHypothesis later isLater
        refine ⟨c :: front, rest, rfl, ?_, rfl⟩
        rw [byteLength_cons]
        omega
    | case4 => cases converted
  · rintro ⟨front, rest, rfl, rfl, rfl⟩
    exact unitOfByte_append front rest

/-! ### Cutting -/

theorem dropBytes?_cons (c : Char) (rest : List Char) (count : Nat) :
    dropBytes? (c :: rest) (c.utf8Size + count) = dropBytes? rest count := by
  have size := c.utf8Size_pos
  rw [dropBytes?]
  · rw [if_pos (Nat.le_add_right _ _), Nat.add_sub_cancel_left]
  · omega

theorem dropBytes?_append (before after : List Char) :
    dropBytes? (before ++ after) (byteLength before) = some after := by
  induction before with
  | nil => cases after <;> rfl
  | cons c rest inductionHypothesis =>
      rw [List.cons_append, byteLength_cons, dropBytes?_cons, inductionHypothesis]

/-- Bytes are dropped from behind a front that is dropped whole. -/
theorem dropBytes?_append_add (before after : List Char) (count : Nat) :
    dropBytes? (before ++ after) (byteLength before + count) = dropBytes? after count := by
  induction before with
  | nil => rw [List.nil_append, byteLength_nil, Nat.zero_add]
  | cons c rest inductionHypothesis =>
      rw [List.cons_append, byteLength_cons, Nat.add_assoc, dropBytes?_cons, inductionHypothesis]

theorem takeBytes?_cons (c : Char) (rest : List Char) (count : Nat) :
    takeBytes? (c :: rest) (c.utf8Size + count) = (takeBytes? rest count).map (c :: ·) := by
  have size := c.utf8Size_pos
  rw [takeBytes?]
  · rw [if_pos (Nat.le_add_right _ _), Nat.add_sub_cancel_left]
  · omega

theorem takeBytes?_append (before after : List Char) :
    takeBytes? (before ++ after) (byteLength before) = some before := by
  induction before with
  | nil => cases after <;> rfl
  | cons c rest inductionHypothesis =>
      rw [List.cons_append, byteLength_cons, takeBytes?_cons, inductionHypothesis]
      rfl

/-- A text has one initial part of a given size. -/
theorem eq_of_append_eq_of_byteLength_eq
    {left leftRest right rightRest : List Char}
    (sameText : left ++ leftRest = right ++ rightRest)
    (sameSize : byteLength left = byteLength right) :
    left = right := by
  have cut := takeBytes?_append left leftRest
  rw [sameText, sameSize, takeBytes?_append] at cut
  exact (Option.some.inj cut).symm

theorem exists_append_of_dropBytes?
    {text rest : List Char}
    {count : Nat}
    (dropped : dropBytes? text count = some rest) :
    ∃ before, text = before ++ rest ∧ count = byteLength before := by
  fun_induction dropBytes? text count with
  | case1 text => exact ⟨[], Option.some.inj dropped, rfl⟩
  | case2 => cases dropped
  | case3 c tail count positive fits inductionHypothesis =>
      obtain ⟨before, rfl, atEnd⟩ := inductionHypothesis dropped
      refine ⟨c :: before, rfl, ?_⟩
      rw [byteLength_cons]
      omega
  | case4 => cases dropped

theorem exists_append_of_takeBytes?
    {text front : List Char}
    {count : Nat}
    (taken : takeBytes? text count = some front) :
    ∃ after, text = front ++ after ∧ count = byteLength front := by
  fun_induction takeBytes? text count generalizing front with
  | case1 text =>
      rw [← Option.some.inj taken]
      exact ⟨text, rfl, rfl⟩
  | case2 => cases taken
  | case3 c tail count positive fits inductionHypothesis =>
      obtain ⟨rest, restTaken, rfl⟩ := Option.map_eq_some_iff.mp taken
      obtain ⟨after, rfl, atEnd⟩ := inductionHypothesis restTaken
      refine ⟨after, rfl, ?_⟩
      rw [byteLength_cons]
      omega
  | case4 => cases taken

/-- Whatever is cut out of a text is a part of it, from one of its ends to the other. -/
theorem exists_append_of_slice?
    {text middle : List Char}
    {start stop : Nat}
    (sliced : slice? text start stop = some middle) :
    ∃ before after, text = before ++ middle ++ after ∧ start = byteLength before ∧
      stop = byteLength (before ++ middle) := by
  rw [slice?] at sliced
  split at sliced
  · obtain ⟨rest, dropped, taken⟩ := Option.bind_eq_some_iff.mp sliced
    obtain ⟨before, rfl, atStart⟩ := exists_append_of_dropBytes? dropped
    obtain ⟨after, rfl, atStop⟩ := exists_append_of_takeBytes? taken
    refine ⟨before, after, (List.append_assoc _ _ _).symm, atStart, ?_⟩
    rw [byteLength_append]
    omega
  · cases sliced

/-- Cutting at the ends of a middle part gives that part. -/
theorem slice?_append (before middle after : List Char) :
    slice? (before ++ middle ++ after) (byteLength before) (byteLength (before ++ middle)) =
      some middle := by
  rw [slice?, byteLength_append, if_pos (Nat.le_add_right _ _), List.append_assoc,
    dropBytes?_append, Option.bind_some, Nat.add_sub_cancel_left, takeBytes?_append]

/-- Cutting behind a front is cutting what follows it. -/
theorem slice?_append_add (before after : List Char) (start stop : Nat) :
    slice? (before ++ after) (byteLength before + start) (byteLength before + stop) =
      slice? after start stop := by
  simp only [slice?, Nat.add_le_add_iff_left, dropBytes?_append_add, Nat.add_sub_add_left]

/-- What stands before an ending is the text without it, and nothing else. -/
theorem beforeSuffix?_eq_some_iff (text ending front : List Char) :
    beforeSuffix? text ending = some front ↔ text = front ++ ending := by
  unfold beforeSuffix?
  constructor
  · intro found
    split at found
    · next isEnding =>
        obtain ⟨rest, rfl⟩ := List.isSuffixOf_iff_suffix.mp isEnding
        have cut : rest = front := by simpa using found
        rw [cut]
    · exact absurd found (by simp)
  · rintro rfl
    rw [if_pos (List.isSuffixOf_iff_suffix.mpr (List.suffix_append _ _))]
    simp

/-- What stands after an opening is the text without it, and nothing else. -/
theorem afterPrefix?_eq_some_iff (text opening rest : List Char) :
    afterPrefix? text opening = some rest ↔ text = opening ++ rest := by
  fun_induction afterPrefix? text opening with
  | case1 text => simp
  | case2 d opening => simp
  | case3 text d opening inductionHypothesis => simp [inductionHypothesis]
  | case4 c text d opening differ => simp [differ]

/-! ### Trimming -/

theorem exists_append_trimStart (text : List Char) :
    ∃ blanks, text = blanks ++ trimStart text ∧ ∀ c ∈ blanks, isBlank c = true :=
  ⟨text.takeWhile isBlank, (List.takeWhile_append_dropWhile).symm,
    List.all_eq_true.mp List.all_takeWhile⟩

theorem exists_trimEnd_append (text : List Char) :
    ∃ blanks, text = trimEnd text ++ blanks ∧ ∀ c ∈ blanks, isBlank c = true := by
  refine ⟨(text.reverse.takeWhile isBlank).reverse, ?_, fun c member => ?_⟩
  · rw [trimEnd, ← List.reverse_append, List.takeWhile_append_dropWhile, List.reverse_reverse]
  · exact List.all_eq_true.mp List.all_takeWhile c (List.mem_reverse.mp member)

theorem length_trim_le (text : List Char) : (trim text).length ≤ text.length := by
  obtain ⟨leading, leadingEq, -⟩ := exists_append_trimStart text
  obtain ⟨trailing, trailingEq, -⟩ := exists_trimEnd_append (trimStart text)
  have wholeLength := congrArg List.length leadingEq
  have restLength := congrArg List.length trailingEq
  rw [List.length_append] at wholeLength restLength
  rw [trim]
  omega

/-- Leading blanks are trimmed up to the first character that is none. -/
theorem trimStart_append
    {blanks : List Char}
    (allBlank : ∀ c ∈ blanks, isBlank c = true)
    {text : List Char}
    (visible : ∀ c ∈ text.head?, isBlank c = false) :
    trimStart (blanks ++ text) = text := by
  rw [trimStart, List.dropWhile_append_of_pos allBlank]
  cases text with
  | nil => rfl
  | cons c rest => exact List.dropWhile_cons_of_neg (by simp [visible c rfl])

/-- Trailing blanks are trimmed up to the last character that is none. -/
theorem trimEnd_append
    {blanks : List Char}
    (allBlank : ∀ c ∈ blanks, isBlank c = true)
    {text : List Char}
    (visible : ∀ c ∈ text.getLast?, isBlank c = false) :
    trimEnd (text ++ blanks) = text := by
  have fromBehind : trimStart (blanks.reverse ++ text.reverse) = text.reverse := by
    refine trimStart_append (fun c member => allBlank c (List.mem_reverse.mp member)) ?_
    rw [List.head?_reverse]
    exact visible
  rw [trimEnd, List.reverse_append]
  exact (congrArg List.reverse fromBehind).trans (List.reverse_reverse text)

end Highlight.Text
