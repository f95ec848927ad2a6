import Highlight.Proofs.Token.Normalize
import Highlight.Service.Session

/-!
Contract: the encoder accepts exactly the lists in order, and what it writes can
be read back.

Owns: the reader of wire tokens that an editor uses, which adds up the
differences as natural numbers, and the laws of the encoder: when it succeeds,
which token it names when it does not, and that the reader gives back every
token. A difference that wrapped around would show in the sums.
-/

set_option autoImplicit false

namespace Highlight

structure PlacedToken where
  line : Nat
  start : Nat
  length : UInt32
  typeIndex : UInt32
  modifierBits : UInt32
  deriving DecidableEq, Repr

namespace WireToken

/-- The place of a token that follows one at a given line and start: further down by the line
difference, and on the same line further right by the start difference. -/
def placeAfter (line start : Nat) (token : WireToken) : PlacedToken where
  line := line + token.deltaLine.toNat
  start :=
    if token.deltaLine = 0 then start + token.deltaStart.toNat else token.deltaStart.toNat
  length := token.length
  typeIndex := token.typeIndex
  modifierBits := token.modifierBits

def decodeAfter (line start : Nat) : List WireToken → List PlacedToken
  | [] => []
  | token :: rest =>
      let placed := token.placeAfter line start
      placed :: decodeAfter placed.line placed.start rest

def decode (data : List WireToken) : List PlacedToken :=
  decodeAfter 0 0 data

end WireToken

/-- The differences between a range and the one before it are not negative: the line difference,
and on the same line the start difference. -/
def TokenRange.ReachableFrom (range earlier : TokenRange) : Prop :=
  earlier.line ≤ range.line ∧ (earlier.line = range.line → earlier.start ≤ range.start)

theorem TokenRange.Precedes.reachable
    {earlier range : TokenRange}
    (precedes : earlier.Precedes range) :
    range.ReachableFrom earlier := by
  rw [TokenRange.precedes_iff_toNat] at precedes
  rw [TokenRange.ReachableFrom, UInt32.le_iff_toNat_le, UInt32.le_iff_toNat_le,
    ← UInt32.toNat_inj]
  omega

namespace Encoding

/-- The range that differences are taken from: the one before, or the start of the document. -/
def origin (last : Option TokenRange) : TokenRange :=
  last.getD ⟨0, 0, 0⟩

def placed (encoding : Encoding) (token : RangedToken) : PlacedToken where
  line := token.range.line.toNat
  start := token.range.start.toNat
  length := token.range.length
  typeIndex := encoding.typeIndex token.kind
  modifierBits := encoding.modifierBits token

theorem reachable_origin
    {last : Option TokenRange}
    {range : TokenRange}
    (after : ∀ earlier ∈ last, earlier.Precedes range) :
    range.ReachableFrom (origin last) := by
  cases last with
  | none =>
      refine ⟨?_, fun _ => ?_⟩ <;> rw [UInt32.le_iff_toNat_le] <;> exact Nat.zero_le _
  | some earlier => exact (after earlier rfl).reachable

/-- One step: the numbers of a token put it back in its place. -/
theorem placeAfter_wire
    (encoding : Encoding)
    (last : Option TokenRange)
    (token : RangedToken)
    (reachable : token.range.ReachableFrom (origin last)) :
    (encoding.wire last token).placeAfter (origin last).line.toNat (origin last).start.toNat =
      encoding.placed token := by
  obtain ⟨lines, starts⟩ := reachable
  have lineSum :
      (origin last).line.toNat + (token.range.line - (origin last).line).toNat =
        token.range.line.toNat := by
    rw [UInt32.toNat_sub_of_le _ _ lines]
    rw [UInt32.le_iff_toNat_le] at lines
    omega
  -- the encoder takes a start difference exactly when the line difference is zero
  have sameLine :
      token.range.line - (origin last).line = 0 ↔ (origin last).line = token.range.line := by
    rw [← UInt32.toNat_inj, ← UInt32.toNat_inj, UInt32.toNat_zero]
    omega
  have startSum :
      (if token.range.line - (origin last).line = 0 then
          (origin last).start.toNat +
            (if token.range.line - (origin last).line = 0 then
              token.range.start - (origin last).start else token.range.start).toNat
        else
          (if token.range.line - (origin last).line = 0 then
            token.range.start - (origin last).start else token.range.start).toNat) =
        token.range.start.toNat := by
    by_cases same : token.range.line - (origin last).line = 0
    · have atOrAfter := starts (sameLine.mp same)
      rw [if_pos same, if_pos same, UInt32.toNat_sub_of_le _ _ atOrAfter]
      rw [UInt32.le_iff_toNat_le] at atOrAfter
      omega
    · rw [if_neg same, if_neg same]
  simp only [WireToken.placeAfter, wire, placed, PlacedToken.mk.injEq, and_true]
  exact ⟨lineSum, startSum⟩

theorem some_fits {range : TokenRange} (fits : range.Fits) :
    ∀ earlier ∈ some range, earlier.Fits := by
  intro earlier isRange
  rw [← Option.mem_some_iff.mp isRange]
  exact fits

/-- The encoder lets a token pass exactly when the range before it, if any, precedes it. -/
theorem isOutOfOrder_eq_false_iff
    {last : Option TokenRange}
    (lastFits : ∀ earlier ∈ last, earlier.Fits)
    (range : TokenRange) :
    isOutOfOrder last range = false ↔ ∀ earlier ∈ last, earlier.Precedes range := by
  cases last with
  | none => simp [isOutOfOrder]
  | some earlier =>
      rw [← Bool.not_eq_true, isOutOfOrder_some_iff (lastFits earlier rfl), Decidable.not_not]
      simp

/-- Success on a longer list: the first token passes and the rest succeeds after it. -/
theorem encodeAfter_cons_eq_ok_iff
    (encoding : Encoding)
    (last : Option TokenRange)
    (token : RangedToken)
    (rest : List RangedToken)
    (data : List WireToken) :
    encoding.encodeAfter last (token :: rest) = .ok data ↔
      isOutOfOrder last token.range = false ∧
        ∃ restData, encoding.encodeAfter (some token.range) rest = .ok restData ∧
          data = encoding.wire last token :: restData := by
  rw [encodeAfter]
  cases isOutOfOrder last token.range <;>
    cases encoding.encodeAfter (some token.range) rest <;> simp [eq_comm]

/-- Failure on a longer list: the first token is refused, or it passes and the rest fails. -/
theorem encodeAfter_cons_eq_error_iff
    (encoding : Encoding)
    (last : Option TokenRange)
    (token : RangedToken)
    (rest : List RangedToken)
    (fault : OutOfOrder) :
    encoding.encodeAfter last (token :: rest) = .error fault ↔
      isOutOfOrder last token.range = true ∧ fault = ⟨token.range.line, token.range.start⟩ ∨
        isOutOfOrder last token.range = false ∧
          encoding.encodeAfter (some token.range) rest = .error fault := by
  rw [encodeAfter]
  cases isOutOfOrder last token.range <;>
    cases encoding.encodeAfter (some token.range) rest <;> simp [eq_comm]

/-- Encoding succeeds exactly on lists in order that come after the last range. Neighbours are all
that is tested; the rest follows because preceding is transitive. -/
theorem exists_encodeAfter_ok_iff
    (encoding : Encoding)
    {last : Option TokenRange}
    {tokens : List RangedToken}
    (lastFits : ∀ earlier ∈ last, earlier.Fits)
    (fits : ∀ token ∈ tokens, token.range.Fits) :
    (∃ data, encoding.encodeAfter last tokens = .ok data) ↔
      RangedToken.AllAfter last tokens ∧ RangedToken.InOrder tokens := by
  induction tokens generalizing last with
  | nil => simp [encodeAfter, RangedToken.AllAfter, RangedToken.InOrder]
  | cons token rest inductionHypothesis =>
      obtain ⟨tokenFits, restFits⟩ := List.forall_mem_cons.mp fits
      have restOk := inductionHypothesis (some_fits tokenFits) restFits
      have passes := isOutOfOrder_eq_false_iff lastFits token.range
      simp only [encodeAfter_cons_eq_ok_iff, RangedToken.inOrder_cons_iff]
      constructor
      · rintro ⟨data, accepted, restData, restEq, -⟩
        obtain ⟨restAfter, restInOrder⟩ := restOk.mp ⟨restData, restEq⟩
        have after := (RangedToken.allAfter_cons_iff last restAfter).mpr (passes.mp accepted)
        exact ⟨after, restAfter, restInOrder⟩
      · rintro ⟨after, restAfter, restInOrder⟩
        obtain ⟨restData, restEq⟩ := restOk.mpr ⟨restAfter, restInOrder⟩
        have accepted := passes.mpr ((RangedToken.allAfter_cons_iff last restAfter).mp after)
        exact ⟨_, accepted, restData, restEq, rfl⟩

/-- The encoder takes what is left of a sorted list without overlaps. Both make the same test on
neighbours, so that ranges which end beyond 32 bits make no difference here. -/
theorem exists_encodeAfter_dropOverlaps_ok
    (encoding : Encoding)
    {last : Option TokenRange}
    {tokens : List RangedToken}
    (lastBefore : ∀ earlier ∈ last, ∀ token ∈ tokens, earlier.line ≤ token.range.line)
    (sorted : tokens.Pairwise fun left right => compare left.range right.range = .lt) :
    ∃ data, encoding.encodeAfter last (RangedToken.dropOverlaps last tokens) = .ok data := by
  induction tokens generalizing last with
  | nil => exact ⟨[], rfl⟩
  | cons token rest inductionHypothesis =>
      obtain ⟨tokenFirst, restSorted⟩ := List.pairwise_cons.mp sorted
      rw [RangedToken.dropOverlaps]
      split
      · exact inductionHypothesis
          (fun earlier isLast other member =>
            lastBefore earlier isLast other (List.mem_cons_of_mem _ member))
          restSorted
      · next outside =>
          obtain ⟨restData, restEq⟩ := inductionHypothesis
            (RangedToken.line_le_of_sorted_cons tokenFirst) restSorted
          have accepted : isOutOfOrder last token.range = false := by
            cases last with
            | none => rfl
            | some earlier =>
                have notBack := lastBefore earlier rfl token List.mem_cons_self
                rw [Option.any_some, Bool.not_eq_true] at outside
                rw [isOutOfOrder, Option.any_some, outside, Bool.or_false,
                  decide_eq_false_iff_not, UInt32.not_lt]
                exact notBack
          exact ⟨_, (encodeAfter_cons_eq_ok_iff encoding last token _ _).mpr
            ⟨accepted, restData, restEq, rfl⟩⟩

/-- The encoder takes every normal form. -/
theorem exists_encode_normalize_ok (encoding : Encoding) (tokens : List RangedToken) :
    ∃ data, encoding.encode (RangedToken.normalize tokens) = .ok data :=
  exists_encodeAfter_dropOverlaps_ok encoding (by simp) (RangedToken.mergeRanges_sorted tokens)

/-- Reading what was written after a range gives back every token. -/
theorem decodeAfter_of_encodeAfter
    (encoding : Encoding)
    {last : Option TokenRange}
    {tokens : List RangedToken}
    {data : List WireToken}
    (lastFits : ∀ earlier ∈ last, earlier.Fits)
    (fits : ∀ token ∈ tokens, token.range.Fits)
    (encoded : encoding.encodeAfter last tokens = .ok data) :
    WireToken.decodeAfter (origin last).line.toNat (origin last).start.toNat data =
      tokens.map encoding.placed := by
  induction tokens generalizing last data with
  | nil =>
      cases encoded
      rfl
  | cons token rest inductionHypothesis =>
      obtain ⟨tokenFits, restFits⟩ := List.forall_mem_cons.mp fits
      obtain ⟨accepted, restData, restEq, rfl⟩ :=
        (encodeAfter_cons_eq_ok_iff encoding last token rest data).mp encoded
      have passes := (isOutOfOrder_eq_false_iff lastFits token.range).mp accepted
      have first := placeAfter_wire encoding last token (reachable_origin passes)
      rw [WireToken.decodeAfter, first, List.map_cons]
      exact congrArg _ (inductionHypothesis (some_fits tokenFits) restFits restEq)

/-- The token named by a failure is the first that does not come after the range before it. -/
theorem exists_of_encodeAfter_error
    (encoding : Encoding)
    {last : Option TokenRange}
    {tokens : List RangedToken}
    {fault : OutOfOrder}
    (lastFits : ∀ earlier ∈ last, earlier.Fits)
    (fits : ∀ token ∈ tokens, token.range.Fits)
    (failed : encoding.encodeAfter last tokens = .error fault) :
    ∃ before token after,
      tokens = before ++ token :: after ∧
        RangedToken.AllAfter last before ∧ RangedToken.InOrder before ∧
        (∃ earlier, (before.getLast?.map RangedToken.range).or last = some earlier ∧
          ¬ earlier.Precedes token.range) ∧
        fault = ⟨token.range.line, token.range.start⟩ := by
  induction tokens generalizing last with
  | nil => cases failed
  | cons token rest inductionHypothesis =>
      obtain ⟨tokenFits, restFits⟩ := List.forall_mem_cons.mp fits
      have passes := isOutOfOrder_eq_false_iff lastFits token.range
      rcases (encodeAfter_cons_eq_error_iff encoding last token rest fault).mp failed with
        ⟨refused, rfl⟩ | ⟨accepted, restFailed⟩
      · cases last with
        | none => cases refused
        | some earlier =>
            have apart := (isOutOfOrder_some_iff (lastFits earlier rfl) token.range).mp refused
            exact ⟨[], token, rest, rfl, by simp [RangedToken.AllAfter], List.Pairwise.nil,
              ⟨earlier, rfl, apart⟩, rfl⟩
      · obtain ⟨before, other, after, rfl, beforeAfter, inOrder, ⟨earlier, isLast, apart⟩, rfl⟩ :=
          inductionHypothesis (some_fits tokenFits) restFits restFailed
        refine ⟨token :: before, other, after, rfl, ?_, ?_, ⟨earlier, ?_, apart⟩, rfl⟩
        · exact (RangedToken.allAfter_cons_iff last beforeAfter).mpr (passes.mp accepted)
        · exact (RangedToken.inOrder_cons_iff token before).mpr ⟨beforeAfter, inOrder⟩
        · rw [← isLast, List.getLast?_cons]
          cases before.getLast? <;> rfl

end Encoding

/-- A list that cannot be encoded makes the request fail with the token named, and changes
nothing. -/
theorem Session.write_of_encode_error
    (session : Session)
    (encoding : Encoding)
    (url : Url)
    {document : DocumentTokens}
    {fault : OutOfOrder}
    (failed : encoding.encode document.tokens = .error fault) :
    session.write encoding url document =
      ⟨.error (.internal (.outOfOrder fault)), [], session⟩ := by
  rw [Session.write, Encoding.stamp, failed]

/-- The text of the failure gives line and start of the token. -/
theorem Failure.message_outOfOrder (line start : UInt32) :
    (Failure.internal (.outOfOrder ⟨line, start⟩)).message =
      "Internal error: semantic token at " ++ toString line.toNat ++ ":" ++
        toString start.toNat ++ " is out of order" := by
  have outer :
      (Failure.internal (.outOfOrder ⟨line, start⟩)).message =
        "Internal error: " ++ (Fault.outOfOrder ⟨line, start⟩).message := rfl
  have inner :
      (Fault.outOfOrder ⟨line, start⟩).message =
        "semantic token at " ++ toString line.toNat ++ ":" ++ toString start.toNat ++
          " is out of order" := rfl
  rw [outer, inner]
  simp only [← String.append_assoc]
  simp

namespace RangedToken

/-- The token is the first of the list that does not come after the one before it. -/
def IsFirstOutOfOrder (tokens : List RangedToken) (token : RangedToken) : Prop :=
  ∃ before earlier after,
    tokens = before ++ earlier :: token :: after ∧
      InOrder (before ++ [earlier]) ∧ ¬ earlier.range.Precedes token.range

/-- The differences that the encoder takes along the list, the first from the start of the
document, are not negative. -/
def Subtractable (tokens : List RangedToken) : Prop :=
  ∀ before token after, tokens = before ++ token :: after →
    token.range.ReachableFrom (Encoding.origin (before.getLast?.map RangedToken.range))

theorem InOrder.subtractable {tokens : List RangedToken} (inOrder : InOrder tokens) :
    Subtractable tokens := by
  rintro before token after rfl
  apply Encoding.reachable_origin
  intro earlier isLast
  obtain ⟨last, lastEq, rfl⟩ := Option.map_eq_some_iff.mp isLast
  have member : last ∈ before := List.mem_of_getLast? lastEq
  exact (List.pairwise_append.mp inOrder).2.2 last member token List.mem_cons_self

end RangedToken

namespace Encoding

theorem exists_encode_ok_iff
    (encoding : Encoding)
    {tokens : List RangedToken}
    (fits : ∀ token ∈ tokens, token.range.Fits) :
    (∃ data, encoding.encode tokens = .ok data) ↔ RangedToken.InOrder tokens := by
  rw [encode, exists_encodeAfter_ok_iff encoding (by simp) fits]
  simp [RangedToken.AllAfter]

theorem encode_eq_error_of_not_inOrder
    (encoding : Encoding)
    {tokens : List RangedToken}
    (fits : ∀ token ∈ tokens, token.range.Fits)
    (disordered : ¬ RangedToken.InOrder tokens) :
    ∃ token, RangedToken.IsFirstOutOfOrder tokens token ∧
      encoding.encode tokens = .error ⟨token.range.line, token.range.start⟩ := by
  cases result : encoding.encode tokens with
  | ok data =>
      exact absurd ((exists_encode_ok_iff encoding fits).mp ⟨data, result⟩) disordered
  | error fault =>
      obtain ⟨before, token, after, split, -, inOrder, ⟨range, isLast, apart⟩, rfl⟩ :=
        exists_of_encodeAfter_error encoding (by simp) fits result
      refine ⟨token, ?_, rfl⟩
      -- nothing precedes the list, so the range before the token is that of a token
      rw [Option.or_none] at isLast
      obtain ⟨earlier, earlierEq, rfl⟩ := Option.map_eq_some_iff.mp isLast
      obtain ⟨front, rfl⟩ := List.getLast?_eq_some_iff.mp earlierEq
      exact ⟨front, earlier, after, by rw [split]; simp, inOrder, apart⟩

/-- The encoder succeeds exactly on the lists in which every token precedes every later one.
On any other list the request fails with an internal error that names line and start of the first
token out of order. On success no difference goes below zero, and an editor that adds the
differences up finds every token at its place, with the index of its kind and its modifiers. -/
theorem encode_laws
    (encoding : Encoding)
    (tokens : List RangedToken)
    (fits : ∀ token ∈ tokens, token.range.Fits) :
    ((∃ data, encoding.encode tokens = .ok data) ↔ RangedToken.InOrder tokens) ∧
      (¬ RangedToken.InOrder tokens →
        ∃ token, RangedToken.IsFirstOutOfOrder tokens token ∧
          encoding.encode tokens = .error ⟨token.range.line, token.range.start⟩ ∧
          ∀ (session : Session) (url : Url) (version : Option Int),
            ∃ fault, (session.write encoding url ⟨tokens, version⟩).answer = .error (.internal fault) ∧
              (Failure.internal fault).message =
                "Internal error: semantic token at " ++ toString token.range.line.toNat ++ ":" ++
                  toString token.range.start.toNat ++ " is out of order") ∧
      ∀ data, encoding.encode tokens = .ok data →
        RangedToken.Subtractable tokens ∧ WireToken.decode data = tokens.map encoding.placed := by
  have okIff := exists_encode_ok_iff encoding fits
  refine ⟨okIff, ?_, ?_⟩
  · intro disordered
    obtain ⟨token, isFirst, failed⟩ := encode_eq_error_of_not_inOrder encoding fits disordered
    refine ⟨token, isFirst, failed, fun session url version => ?_⟩
    refine ⟨.outOfOrder ⟨token.range.line, token.range.start⟩, ?_, ?_⟩
    · rw [session.write_of_encode_error encoding url failed]
    · exact Failure.message_outOfOrder _ _
  · intro data encoded
    exact ⟨(okIff.mp ⟨data, encoded⟩).subtractable,
      decodeAfter_of_encodeAfter encoding (by simp) fits encoded⟩

def variableAt (range : TokenRange) : RangedToken where
  range := range
  kind := .var
  modifiers := Modifiers.none
  definedIn := none

/-- Two tokens that touch, an empty one where the second ends, and one further down. -/
def touchingTokens : List RangedToken :=
  [variableAt ⟨0, 0, 3⟩, variableAt ⟨0, 3, 2⟩, variableAt ⟨0, 5, 0⟩, variableAt ⟨2, 1, 4⟩]

def overlappingTokens : List RangedToken :=
  touchingTokens ++ [variableAt ⟨2, 4, 9⟩]

theorem encode_laws_touching_overlapping :
    (∀ token ∈ overlappingTokens, token.range.Fits) ∧
      (∃ data, default.encode touchingTokens = .ok data ∧
        WireToken.decode data = touchingTokens.map default.placed) ∧
      ∃ token, RangedToken.IsFirstOutOfOrder overlappingTokens token ∧
        default.encode overlappingTokens = .error ⟨token.range.line, token.range.start⟩ := by
  have overlappingFits : ∀ token ∈ overlappingTokens, token.range.Fits := by decide
  refine ⟨overlappingFits, ?_, ?_⟩
  · obtain ⟨okIff, -, readBack⟩ := encode_laws default touchingTokens (by decide)
    obtain ⟨data, encoded⟩ := okIff.mpr (by decide)
    exact ⟨data, encoded, (readBack data encoded).2⟩
  · obtain ⟨-, failure, -⟩ := encode_laws default overlappingTokens overlappingFits
    obtain ⟨token, isFirst, failed, -⟩ := failure (by decide)
    exact ⟨token, isFirst, failed⟩

end Encoding

end Highlight
