import Highlight.Proofs.Service.Ledger
import Mathlib.Data.List.Induction

/-!
Contract: the cache against the history of its writes.

Owns: sequences of operations on a cache, with their ledger, and the reading of
every answer off that ledger: which writes are superseded, what a write
displaces, what a look-up finds and how many documents are held. Between two
removals the writes that were made displace one another in turn, and where every
version is known, the latest of those with the highest version is held.

Writes and removals are listed as results and closed documents are in the ledger
of a server; the notion of the result that stands is the same.
-/

set_option autoImplicit false

namespace Highlight

/-! ### Operations and their ledger -/

inductive CacheOperation where
  | store (url : Url) (tokens : TokenArray) (version : Option Int)
  | get (url : Url)
  | remove (url : Url)
  | size
  deriving DecidableEq, Repr

namespace Cache

def perform (cache : Cache) : CacheOperation → Cache
  | .store url tokens version => (cache.store url tokens version).2
  | .get _ => cache
  | .remove url => cache.remove url
  | .size => cache

/-- What an operation adds to the ledger: a write with what came of it, or a removal. -/
def added? (cache : Cache) : CacheOperation → Option LedgerEntry
  | .store url tokens version =>
      some (.served ⟨url, tokens, version, (cache.store url tokens version).1⟩)
  | .get _ => none
  | .remove url => some (.closed url)
  | .size => none

def after (cache : Cache) : List CacheOperation → Cache
  | [] => cache
  | operation :: rest => (cache.perform operation).after rest

def ledger (cache : Cache) : List CacheOperation → List LedgerEntry
  | [] => []
  | operation :: rest =>
      (cache.added? operation).toList ++ (cache.perform operation).ledger rest

end Cache

/-! ### Outcomes follow what stands -/

/-- The outcome of a write is the one that a ledger asks for: it is superseded exactly when what
stands for the document is of a newer version, both versions being known, and otherwise it displaces
what stands. -/
structure Result.Follows (result : Result) (ledger : List LedgerEntry) : Prop where
  superseded_iff : ∀ newer : Int, result.outcome = .superseded newer ↔
    ∃ held : Result, held.StandsIn ledger ∧ held.url = result.url ∧ held.version = some newer ∧
      IsOlder result.version held.version
  displaces : ∀ previous, result.outcome = .stored previous → ∀ tokens, previous = some tokens ↔
    ∃ held : Result, held.StandsIn ledger ∧ held.url = result.url ∧ held.tokens = tokens

/-- Every write of a document has the outcome that the entries before it ask for. -/
def Consistent (url : Url) (ledger : List LedgerEntry) : Prop :=
  ∀ (earlier later : List LedgerEntry) (result : Result),
    ledger = earlier ++ .served result :: later → result.url = url → result.Follows earlier

namespace Describes

variable {ledger : List LedgerEntry} {cache : Cache} (describes : Describes ledger cache)
include describes

/-- What the cache holds for a document is what stands for it. -/
theorem get?_eq_some_iff (url : Url) (tokens : TokenArray) :
    cache.get? url = some tokens ↔
      ∃ held : Result, held.StandsIn ledger ∧ held.url = url ∧ held.tokens = tokens := by
  rw [Cache.get?, Option.map_eq_some_iff]
  constructor
  · rintro ⟨entry, isHeld, rfl⟩
    obtain ⟨held, stands, isUrl, rfl⟩ := (describes url entry).mp isHeld
    exact ⟨held, stands, isUrl, rfl⟩
  · rintro ⟨held, stands, isUrl, rfl⟩
    exact ⟨held.cached, (describes url held.cached).mpr ⟨held, stands, isUrl, rfl⟩, rfl⟩

/-- A write on a cache that a ledger describes has the outcome that the ledger asks for. -/
theorem follows_store (url : Url) (tokens : TokenArray) (version : Option Int) :
    Result.Follows ⟨url, tokens, version, (cache.store url tokens version).1⟩ ledger := by
  rcases cache.store_cases url tokens version with
    ⟨entry, found, isHeld, ⟨hasVersion, older⟩, storeEq⟩ | ⟨current, storeEq⟩
  · refine ⟨fun newer => ?_, fun previous isStored => ?_⟩
    · simp only [storeEq, StoreOutcome.superseded.injEq]
      constructor
      · rintro rfl
        obtain ⟨held, stands, isUrl, rfl⟩ := (describes url entry).mp isHeld
        exact ⟨held, stands, isUrl, hasVersion, older⟩
      · rintro ⟨held, stands, isUrl, heldVersion, -⟩
        have alsoHeld := (describes url held.cached).mpr ⟨held, stands, isUrl, rfl⟩
        rw [Option.some.inj (isHeld.symm.trans alsoHeld)] at hasVersion
        exact Option.some.inj (hasVersion.symm.trans heldVersion)
    · simp only [storeEq] at isStored
      cases isStored
  · refine ⟨fun newer => ?_, fun previous isStored array => ?_⟩
    · refine iff_of_false (by simp [storeEq]) ?_
      rintro ⟨held, stands, isUrl, -, older⟩
      have isHeld := (describes url held.cached).mpr ⟨held, stands, isUrl, rfl⟩
      exact absurd older (current held.cached isHeld)
    · simp only [storeEq] at isStored
      rw [← StoreOutcome.stored.inj isStored]
      exact describes.get?_eq_some_iff url array

end Describes

namespace Consistent

variable {url : Url} {ledger : List LedgerEntry}

theorem nil : Consistent url [] := by
  intro earlier later result split
  simp at split

theorem append_singleton
    (consistent : Consistent url ledger)
    {entry : LedgerEntry}
    (follows : ∀ result : Result, entry = .served result → result.Follows ledger) :
    Consistent url (ledger ++ [entry]) := by
  intro earlier later result split isUrl
  rcases List.eq_nil_or_concat later with rfl | ⟨middle, last, rfl⟩
  · obtain ⟨rfl, ends⟩ := List.append_inj' split rfl
    exact follows result (List.singleton_inj.mp ends)
  · rw [List.concat_eq_append, ← List.cons_append, ← List.append_assoc] at split
    obtain ⟨rfl, -⟩ := List.append_inj' split rfl
    exact consistent earlier middle result rfl isUrl

theorem of_append {later : List LedgerEntry} (consistent : Consistent url (ledger ++ later)) :
    Consistent url ledger := by
  rintro earlier rest result rfl isUrl
  exact consistent earlier (rest ++ later) result (by simp) isUrl

end Consistent

/-! ### Whole sequences of operations -/

/-- A ledger and a cache belong together: the cache holds the results that stand, and every write
had the outcome that stood to it. -/
structure Tracks (ledger : List LedgerEntry) (cache : Cache) : Prop where
  describes : Describes ledger cache
  consistent : ∀ url, Consistent url ledger

namespace Tracks

theorem empty : Tracks [] Cache.empty :=
  ⟨Describes.empty, fun _ => Consistent.nil⟩

variable {ledger : List LedgerEntry} {cache : Cache} (tracks : Tracks ledger cache)
include tracks

/-- One operation keeps the ledger and the cache together. -/
theorem perform (operation : CacheOperation) :
    Tracks (ledger ++ (cache.added? operation).toList) (cache.perform operation) := by
  have unchanged : Tracks (ledger ++ []) cache := by
    rw [List.append_nil]
    exact tracks
  cases operation with
  | store url tokens version =>
      refine ⟨tracks.describes.serve url tokens version, fun other => ?_⟩
      refine (tracks.consistent other).append_singleton fun result isServed => ?_
      cases isServed
      exact tracks.describes.follows_store url tokens version
  | get url => exact unchanged
  | remove url =>
      refine ⟨tracks.describes.close url, fun other => ?_⟩
      refine (tracks.consistent other).append_singleton fun result isServed => ?_
      cases isServed
  | size => exact unchanged

theorem after (operations : List CacheOperation) :
    Tracks (ledger ++ cache.ledger operations) (cache.after operations) := by
  induction operations generalizing ledger cache with
  | nil =>
      rw [Cache.ledger, List.append_nil]
      exact tracks
  | cons operation rest inductionHypothesis =>
      rw [Cache.ledger, Cache.after, ← List.append_assoc]
      exact inductionHypothesis (tracks.perform operation)

end Tracks

/-! ### Since a removal -/

theorem Result.not_standsIn_nil (result : Result) : ¬ result.StandsIn [] := by
  rw [Result.standsIn_iff_isLatest]
  exact IsLatest.not_nil _

/-- The ledger is empty, or ends with the removal of the document. -/
def StartsAfresh (url : Url) (ledger : List LedgerEntry) : Prop :=
  ledger = [] ∨ ∃ before, ledger = before ++ [.closed url]

theorem StartsAfresh.not_standsIn
    {result : Result}
    {ledger : List LedgerEntry}
    (afresh : StartsAfresh result.url ledger) :
    ¬ result.StandsIn ledger := by
  rcases afresh with rfl | ⟨before, rfl⟩
  · exact result.not_standsIn_nil
  · rw [Result.standsIn_append_singleton_iff]
    rintro (⟨isServed, -⟩ | ⟨-, notClosed, -⟩)
    · cases isServed
    · exact notClosed rfl

/-- What did not stand before a stretch of the ledger stands after it as if it were all. -/
theorem Result.standsIn_append_iff
    {result : Result}
    {earlier : List LedgerEntry}
    (gone : ¬ result.StandsIn earlier)
    (segment : List LedgerEntry) :
    result.StandsIn (earlier ++ segment) ↔ result.StandsIn segment := by
  induction segment using List.reverseRecOn with
  | nil =>
      rw [List.append_nil]
      exact iff_of_false gone result.not_standsIn_nil
  | append_singleton before entry inductionHypothesis =>
      rw [← List.append_assoc, Result.standsIn_append_singleton_iff,
        Result.standsIn_append_singleton_iff, inductionHypothesis]

/-- Outcomes depend on what came since the last removal only. -/
theorem Consistent.since
    {url : Url}
    {earlier segment : List LedgerEntry}
    (consistent : Consistent url (earlier ++ segment))
    (afresh : StartsAfresh url earlier) :
    Consistent url segment := by
  rintro before later result rfl rfl
  have follows := consistent (earlier ++ before) later result (by simp) rfl
  have sameStanding (property : Result → Prop) :
      (∃ held : Result, held.StandsIn (earlier ++ before) ∧ held.url = result.url ∧ property held) ↔
        ∃ held : Result, held.StandsIn before ∧ held.url = result.url ∧ property held := by
    refine exists_congr fun held => and_congr_left fun ⟨isUrl, _⟩ => ?_
    exact Result.standsIn_append_iff (StartsAfresh.not_standsIn (isUrl ▸ afresh)) before
  exact ⟨fun newer => (follows.superseded_iff newer).trans (sameStanding _),
    fun previous isStored tokens =>
      (follows.displaces previous isStored tokens).trans (sameStanding _)⟩

/-! ### One more entry -/

/-- An entry that writes for a document puts its own result in the place of any other. -/
theorem Result.standsIn_append_of_writesAt
    (result : Result)
    (ledger : List LedgerEntry)
    {entry : LedgerEntry}
    (writes : entry.WritesAt result.url) :
    result.StandsIn (ledger ++ [entry]) ↔ entry = .served result := by
  rw [standsIn_iff_isLatest, IsLatest.append_singleton_iff]
  constructor
  · rintro (⟨isServed, -⟩ | ⟨-, notWrites, -⟩)
    · exact isServed
    · exact absurd writes notWrites
  · rintro rfl
    exact Or.inl ⟨rfl, writes⟩

/-- An entry that neither writes for a document nor removes it changes nothing for it. -/
theorem Result.standsIn_append_of_not_writesAt
    (result : Result)
    (ledger : List LedgerEntry)
    {entry : LedgerEntry}
    (quiet : ¬ entry.WritesAt result.url)
    (stays : entry ≠ .closed result.url) :
    result.StandsIn (ledger ++ [entry]) ↔ result.StandsIn ledger := by
  rw [standsIn_iff_isLatest, standsIn_iff_isLatest, IsLatest.append_singleton_iff]
  constructor
  · rintro (⟨rfl, writes⟩ | ⟨stands, -⟩)
    · exact absurd writes quiet
    · exact stands
  · exact fun stands => Or.inr ⟨stands, quiet, stays⟩

/-! ### The chain of writes -/

/-- The array that an entry writes for a document, and the one that it displaces. -/
def LedgerEntry.written? (url : Url) : LedgerEntry → Option (TokenArray × Option TokenArray)
  | .served ⟨document, tokens, _, .stored previous⟩ =>
      if document = url then some (tokens, previous) else none
  | .served ⟨_, _, _, .superseded _⟩ => none
  | .closed _ => none

theorem LedgerEntry.written?_eq_some_iff
    (url : Url)
    (entry : LedgerEntry)
    (tokens : TokenArray)
    (previous : Option TokenArray) :
    entry.written? url = some (tokens, previous) ↔
      ∃ result : Result, entry = .served result ∧ result.url = url ∧ result.tokens = tokens ∧
        result.outcome = .stored previous := by
  match entry with
  | .served ⟨document, array, version, .stored displaced⟩ => simp [written?]
  | .served ⟨document, array, version, .superseded newer⟩ => simp [written?]
  | .closed document => simp [written?]

theorem LedgerEntry.writesAt_iff (url : Url) (entry : LedgerEntry) :
    entry.WritesAt url ↔ ∃ write, entry.written? url = some write := by
  match entry with
  | .served ⟨document, array, version, .stored displaced⟩ =>
      simp [WritesAt, written?, StoreOutcome.isSuperseded]
  | .served ⟨document, array, version, .superseded newer⟩ =>
      simp [WritesAt, written?, StoreOutcome.isSuperseded]
  | .closed document => simp [WritesAt, written?]

/-- Since a removal, the last array that was written stands. -/
theorem exists_standsIn_iff_getLast?
    {url : Url}
    {segment : List LedgerEntry}
    (stays : .closed url ∉ segment)
    (tokens : TokenArray) :
    (∃ held : Result, held.StandsIn segment ∧ held.url = url ∧ held.tokens = tokens) ↔
      (segment.filterMap (LedgerEntry.written? url)).getLast?.map Prod.fst = some tokens := by
  induction segment using List.reverseRecOn with
  | nil => simp [Result.not_standsIn_nil]
  | append_singleton before entry inductionHypothesis =>
      rw [List.mem_append, not_or, List.mem_singleton] at stays
      cases written : entry.written? url with
      | none =>
          rw [List.filterMap_append, List.filterMap_cons_none written, List.filterMap_nil,
            List.append_nil, ← inductionHypothesis stays.1]
          refine exists_congr fun held => and_congr_left fun ⟨isUrl, _⟩ => ?_
          have quiet : ¬ entry.WritesAt url := by
            simp [LedgerEntry.writesAt_iff, written]
          rw [← isUrl] at quiet stays
          exact held.standsIn_append_of_not_writesAt before quiet (Ne.symm stays.2)
      | some write =>
          obtain ⟨array, previous⟩ := write
          rw [List.filterMap_append, List.filterMap_cons_some written, List.filterMap_nil,
            List.getLast?_concat, Option.map_some, Option.some.injEq]
          have writes : entry.WritesAt url := (entry.writesAt_iff url).mpr ⟨_, written⟩
          obtain ⟨result, rfl, rfl, rfl, -⟩ :=
            (entry.written?_eq_some_iff url array previous).mp written
          constructor
          · rintro ⟨held, stands, isUrl, rfl⟩
            rw [← isUrl] at writes
            cases (held.standsIn_append_of_writesAt before writes).mp stands
            rfl
          · intro sameTokens
            exact ⟨result, (result.standsIn_append_of_writesAt before writes).mpr rfl, rfl,
              sameTokens⟩

/-- Since a removal, every write displaces the array that was written just before it, and the first
one displaces none. -/
theorem Consistent.displaced
    {url : Url}
    {segment : List LedgerEntry}
    (consistent : Consistent url segment)
    (stays : .closed url ∉ segment)
    {before after : List (TokenArray × Option TokenArray)}
    {tokens : TokenArray}
    {previous : Option TokenArray}
    (split : segment.filterMap (LedgerEntry.written? url) = before ++ (tokens, previous) :: after) :
    previous = before.getLast?.map Prod.fst := by
  obtain ⟨earlier, rest, rfl, rfl, restEq⟩ := List.filterMap_eq_append_iff.mp split
  obtain ⟨skipped, entry, later, rfl, quiet, written, -⟩ := List.filterMap_eq_cons_iff.mp restEq
  obtain ⟨result, rfl, isUrl, -, isStored⟩ :=
    (entry.written?_eq_some_iff url tokens previous).mp written
  have follows := consistent (earlier ++ skipped) later result (by simp) isUrl
  have staysBefore : .closed url ∉ earlier ++ skipped := by
    intro member
    exact stays (by simp only [← List.append_assoc]; exact List.mem_append_left _ member)
  have sameWrites : (earlier ++ skipped).filterMap (LedgerEntry.written? url) =
      earlier.filterMap (LedgerEntry.written? url) := by
    rw [List.filterMap_append, List.filterMap_eq_nil_iff.mpr quiet, List.append_nil]
  refine Option.ext fun array => ?_
  rw [follows.displaces previous isStored array, isUrl,
    exists_standsIn_iff_getLast? staysBefore array, sameWrites]

/-! ### The highest version -/

/-- The result is the latest of those of its document that have the highest version. -/
def Result.IsNewestIn (result : Result) (segment : List LedgerEntry) : Prop :=
  ∃ (before after : List LedgerEntry) (top : Int),
    segment = before ++ .served result :: after ∧ result.version = some top ∧
    (∀ (other : Result) (version : Int), .served other ∈ before → other.url = result.url →
      other.version = some version → version ≤ top) ∧
    ∀ (other : Result) (version : Int), .served other ∈ after → other.url = result.url →
      other.version = some version → version < top

theorem Result.IsNewestIn.le
    {result other : Result}
    {segment : List LedgerEntry}
    (newest : result.IsNewestIn segment)
    (member : .served other ∈ segment)
    (isUrl : other.url = result.url)
    {version : Int}
    (hasVersion : other.version = some version) :
    ∃ top, result.version = some top ∧ version ≤ top := by
  obtain ⟨before, after, top, rfl, hasTop, notAbove, below⟩ := newest
  refine ⟨top, hasTop, ?_⟩
  rcases List.mem_append.mp member with isBefore | isLater
  · exact notAbove other version isBefore isUrl hasVersion
  · rcases List.mem_cons.mp isLater with isResult | isAfter
    · cases isResult
      exact Int.le_of_eq (Option.some.inj (hasVersion.symm.trans hasTop))
    · exact Int.le_of_lt (below other version isAfter isUrl hasVersion)

/-- After one more entry, the newest result is that entry, if no version before is higher, or the
one before, if the entry has a lower version. -/
theorem Result.isNewestIn_append_singleton_iff
    (result : Result)
    (segment : List LedgerEntry)
    (entry : LedgerEntry) :
    result.IsNewestIn (segment ++ [entry]) ↔
      (entry = .served result ∧ ∃ top, result.version = some top ∧
        ∀ (other : Result) (version : Int), .served other ∈ segment → other.url = result.url →
          other.version = some version → version ≤ top) ∨
      (result.IsNewestIn segment ∧
        ∀ (other : Result) (version : Int), entry = .served other → other.url = result.url →
          other.version = some version → ∃ top, result.version = some top ∧ version < top) := by
  constructor
  · rintro ⟨before, after, top, split, hasTop, notAbove, below⟩
    rcases List.eq_nil_or_concat after with rfl | ⟨middle, last, rfl⟩
    · obtain ⟨rfl, ends⟩ := List.append_inj' split rfl
      exact Or.inl ⟨List.singleton_inj.mp ends, top, hasTop, notAbove⟩
    · rw [List.concat_eq_append] at split below
      rw [← List.cons_append, ← List.append_assoc] at split
      obtain ⟨rfl, ends⟩ := List.append_inj' split rfl
      obtain rfl : entry = last := List.singleton_inj.mp ends
      refine Or.inr ⟨⟨before, middle, top, rfl, hasTop, notAbove, ?_⟩, ?_⟩
      · exact fun other version member => below other version (List.mem_append_left _ member)
      · rintro other version rfl isUrl hasVersion
        exact ⟨top, hasTop, below other version (by simp) isUrl hasVersion⟩
  · rintro (⟨rfl, top, hasTop, notAbove⟩ |
      ⟨⟨before, after, top, rfl, hasTop, notAbove, below⟩, last⟩)
    · exact ⟨segment, [], top, rfl, hasTop, notAbove, by simp⟩
    · refine ⟨before, after ++ [entry], top, by simp, hasTop, notAbove, ?_⟩
      intro other version member isUrl hasVersion
      rcases List.mem_append.mp member with isAfter | isLast
      · exact below other version isAfter isUrl hasVersion
      · obtain ⟨held, hasHeld, lower⟩ :=
          last other version (List.mem_singleton.mp isLast).symm isUrl hasVersion
        rwa [Option.some.inj (hasTop.symm.trans hasHeld)]

theorem Result.StandsIn.mem
    {result : Result}
    {ledger : List LedgerEntry}
    (stands : result.StandsIn ledger) :
    .served result ∈ ledger :=
  ((result.standsIn_iff_isLatest ledger).mp stands).mem

theorem Result.Follows.exists_newer
    {result : Result}
    {ledger : List LedgerEntry}
    (follows : result.Follows ledger)
    (quiet : ¬ (LedgerEntry.served result).WritesAt result.url) :
    ∃ held : Result, held.StandsIn ledger ∧ held.url = result.url ∧
      IsOlder result.version held.version := by
  cases outcomeEq : result.outcome with
  | stored previous => exact absurd ⟨result, rfl, rfl, by rw [outcomeEq]; rfl⟩ quiet
  | superseded newer =>
      obtain ⟨held, stands, isUrl, -, older⟩ := (follows.superseded_iff newer).mp outcomeEq
      exact ⟨held, stands, isUrl, older⟩

theorem Result.Follows.not_isOlder
    {result held : Result}
    {ledger : List LedgerEntry}
    (follows : result.Follows ledger)
    (writes : result.outcome.isSuperseded = false)
    (stands : held.StandsIn ledger)
    (isUrl : held.url = result.url) :
    ¬ IsOlder result.version held.version := by
  rintro ⟨older, newer, isOlder, isNewer, lower⟩
  have superseded := (follows.superseded_iff newer).mpr
    ⟨held, stands, isUrl, isNewer, older, newer, isOlder, isNewer, lower⟩
  rw [superseded] at writes
  cases writes

namespace Consistent

variable {url : Url} {segment : List LedgerEntry} (consistent : Consistent url segment)
  (stays : .closed url ∉ segment)
include consistent stays

/-- A document for which a write was attempted since it was removed has a result that stands. -/
theorem exists_standsIn
    {attempted : Result}
    (member : .served attempted ∈ segment)
    (isUrl : attempted.url = url) :
    ∃ held : Result, held.StandsIn segment ∧ held.url = url := by
  induction segment using List.reverseRecOn with
  | nil => cases member
  | append_singleton before entry inductionHypothesis =>
      rw [List.mem_append, not_or, List.mem_singleton] at stays
      by_cases writes : entry.WritesAt url
      · obtain ⟨result, rfl, rfl, -⟩ := id writes
        exact ⟨result, (result.standsIn_append_of_writesAt before writes).mpr rfl, rfl⟩
      · -- What stood before the entry still stands; if this is the attempt, it found a newer one.
        have stoodBefore : ∃ held : Result, held.StandsIn before ∧ held.url = url := by
          rcases List.mem_append.mp member with isBefore | isLast
          · exact inductionHypothesis consistent.of_append stays.1 isBefore
          · obtain rfl := List.mem_singleton.mp isLast
            subst isUrl
            have follows := consistent before [] attempted rfl rfl
            obtain ⟨held, stands, isUrl, -⟩ := follows.exists_newer writes
            exact ⟨held, stands, isUrl⟩
        obtain ⟨held, stands, rfl⟩ := stoodBefore
        have unchanged := held.standsIn_append_of_not_writesAt before writes (Ne.symm stays.2)
        exact ⟨held, unchanged.mpr stands, rfl⟩

end Consistent

section Newest

variable {url : Url} {before : List LedgerEntry} {entry : LedgerEntry} {result : Result}
  (consistent : Consistent url (before ++ [entry])) (isUrl : result.url = url)
include consistent isUrl

/-- An entry that does not write for a document leaves its newest result alone: if it is an attempt,
it found a newer version. -/
theorem Result.isNewestIn_append_of_not_writesAt (quiet : ¬ entry.WritesAt url) :
    result.IsNewestIn (before ++ [entry]) ↔ result.IsNewestIn before := by
  have exists_newer (attempted : Result) (isServed : entry = .served attempted)
      (attemptedUrl : attempted.url = url) :
      ∃ held : Result, held.StandsIn before ∧ held.url = url ∧
        IsOlder attempted.version held.version := by
    subst isServed
    subst attemptedUrl
    exact (consistent before [] attempted rfl rfl).exists_newer quiet
  rw [Result.isNewestIn_append_singleton_iff]
  constructor
  · rintro (⟨isServed, top, hasTop, notAbove⟩ | ⟨newest, -⟩)
    · obtain ⟨held, stands, heldUrl, older, newer, isOlder, isNewer, lower⟩ :=
        exists_newer result isServed isUrl
      rw [Option.some.inj (isOlder.symm.trans hasTop)] at lower
      have notBelow := notAbove held newer stands.mem (heldUrl.trans isUrl.symm) isNewer
      exact absurd lower (Int.not_lt.mpr notBelow)
    · exact newest
  · intro newest
    refine Or.inr ⟨newest, fun attempted version isServed attemptedUrl hasVersion => ?_⟩
    obtain ⟨held, stands, heldUrl, older, newer, isOlder, isNewer, lower⟩ :=
      exists_newer attempted isServed (attemptedUrl.trans isUrl)
    obtain ⟨top, hasTop, notAbove⟩ := newest.le stands.mem (heldUrl.trans isUrl.symm) isNewer
    rw [Option.some.inj (hasVersion.symm.trans isOlder)]
    exact ⟨top, hasTop, Int.lt_of_lt_of_le lower notAbove⟩

/-- An entry that writes a known version for a document is its newest result, if what stood before
was the newest until then: it was not older than that. -/
theorem Result.isNewestIn_append_of_writesAt
    (stays : .closed url ∉ before)
    (standsIff : ∀ held : Result, held.url = url → (held.StandsIn before ↔ held.IsNewestIn before))
    (known : ∀ written : Result, entry = .served written → ∃ top, written.version = some top)
    (writes : entry.WritesAt url) :
    result.IsNewestIn (before ++ [entry]) ↔ entry = .served result := by
  obtain ⟨written, rfl, rfl, isWritten⟩ := writes
  obtain ⟨top, hasTop⟩ := known written rfl
  have notAbove (attempted : Result) (version : Int) (member : .served attempted ∈ before)
      (sameUrl : attempted.url = written.url) (hasVersion : attempted.version = some version) :
      version ≤ top := by
    obtain ⟨held, stands, heldUrl⟩ := consistent.of_append.exists_standsIn stays member sameUrl
    obtain ⟨highest, hasHighest, below⟩ :=
      ((standsIff held heldUrl).mp stands).le member (sameUrl.trans heldUrl.symm) hasVersion
    have follows := consistent before [] written rfl rfl
    have highestLe : highest ≤ top := Int.not_lt.mp fun lower =>
      follows.not_isOlder isWritten stands heldUrl ⟨top, highest, hasTop, hasHighest, lower⟩
    exact Int.le_trans below highestLe
  rw [Result.isNewestIn_append_singleton_iff]
  constructor
  · rintro (⟨isServed, -⟩ | ⟨newest, lower⟩)
    · exact isServed
    · -- The write would be below a version that was attempted before it.
      obtain ⟨highest, hasHighest, below⟩ := lower written top rfl isUrl.symm hasTop
      have stands := (standsIff result isUrl).mpr newest
      exact absurd below (Int.not_lt.mpr (notAbove result highest stands.mem isUrl hasHighest))
  · intro isServed
    cases isServed
    exact Or.inl ⟨rfl, top, hasTop, notAbove⟩

end Newest

/-- Where every version is known, the result that stands since a removal is the latest of those with
the highest version, of all that were attempted. -/
theorem Consistent.standsIn_iff_isNewestIn
    {url : Url}
    {segment : List LedgerEntry}
    (consistent : Consistent url segment)
    (stays : .closed url ∉ segment)
    (known : ∀ attempted : Result, .served attempted ∈ segment → attempted.url = url →
      ∃ version, attempted.version = some version)
    (result : Result)
    (isUrl : result.url = url) :
    result.StandsIn segment ↔ result.IsNewestIn segment := by
  induction segment using List.reverseRecOn generalizing result with
  | nil =>
      refine iff_of_false result.not_standsIn_nil ?_
      rintro ⟨before, after, top, split, -⟩
      simp at split
  | append_singleton before entry inductionHypothesis =>
      rw [List.mem_append, not_or, List.mem_singleton] at stays
      have standsIff := inductionHypothesis consistent.of_append stays.1
        fun attempted member => known attempted (List.mem_append_left _ member)
      by_cases writes : entry.WritesAt url
      · have knownEntry (written : Result) (isServed : entry = .served written) :
            ∃ top, written.version = some top := by
          subst isServed
          obtain ⟨_, isWritten, writtenUrl, -⟩ := writes
          cases isWritten
          exact known written (by simp) writtenUrl
        rw [result.standsIn_append_of_writesAt before (isUrl ▸ writes),
          Result.isNewestIn_append_of_writesAt consistent isUrl stays.1 standsIff knownEntry writes]
      · rw [Result.isNewestIn_append_of_not_writesAt consistent isUrl writes,
          result.standsIn_append_of_not_writesAt before (isUrl ▸ writes) (isUrl ▸ Ne.symm stays.2),
          standsIff result isUrl]

/-- As many documents are held as have a result that stands. -/
theorem Describes.exists_urls
    {ledger : List LedgerEntry}
    {cache : Cache}
    (describes : Describes ledger cache) :
    ∃ urls : List Url, urls.Nodup ∧ urls.length = cache.size ∧
      ∀ url, url ∈ urls ↔ ∃ held : Result, held.StandsIn ledger ∧ held.url = url := by
  refine ⟨cache.entries.keys, Std.ExtTreeMap.nodup_keys, Std.ExtTreeMap.length_keys, fun url => ?_⟩
  rw [Std.ExtTreeMap.mem_keys, Std.ExtTreeMap.mem_iff_isSome_getElem?, Option.isSome_iff_exists]
  constructor
  · rintro ⟨entry, isHeld⟩
    obtain ⟨held, stands, isUrl, -⟩ := (describes url entry).mp isHeld
    exact ⟨held, stands, isUrl⟩
  · rintro ⟨held, stands, isUrl⟩
    exact ⟨held.cached, (describes url held.cached).mpr ⟨held, stands, isUrl, rfl⟩⟩

/-- The cache refines the ledger of its operations. A write is superseded exactly when what stands
is of a newer version, and then changes nothing; otherwise it displaces what stands. A look-up finds
the array that stands, and as many documents are held as have one. Between two removals of a
document every write displaces the one just before it. If every version attempted since a removal is
known, the entry held is the latest of those with the highest version, made or not. -/
theorem cache_refines_ledger (operations : List CacheOperation) :
    let cache := Cache.empty.after operations
    let ledger := Cache.empty.ledger operations
    (∀ (url : Url) (tokens : TokenArray) (version : Option Int),
        let stored := cache.store url tokens version
        Result.Follows ⟨url, tokens, version, stored.1⟩ ledger ∧
          (stored.1.isSuperseded = true → stored.2 = cache)) ∧
      (∀ (url : Url) (tokens : TokenArray), cache.get? url = some tokens ↔
        ∃ held : Result, held.StandsIn ledger ∧ held.url = url ∧ held.tokens = tokens) ∧
      (∃ urls : List Url, urls.Nodup ∧ urls.length = cache.size ∧
        ∀ url, url ∈ urls ↔ ∃ held : Result, held.StandsIn ledger ∧ held.url = url) ∧
      (∀ (url : Url) (earlier segment later : List LedgerEntry),
        ledger = earlier ++ segment ++ later → StartsAfresh url earlier → .closed url ∉ segment →
        ∀ (before after : List (TokenArray × Option TokenArray)) (tokens : TokenArray)
            (previous : Option TokenArray),
          segment.filterMap (LedgerEntry.written? url) = before ++ (tokens, previous) :: after →
          previous = before.getLast?.map Prod.fst) ∧
      ∀ (url : Url) (earlier segment : List LedgerEntry),
        ledger = earlier ++ segment → StartsAfresh url earlier → .closed url ∉ segment →
        (∀ attempted : Result, .served attempted ∈ segment → attempted.url = url →
          ∃ version, attempted.version = some version) →
        ∀ entry : CacheEntry, cache.entries[url]? = some entry ↔
          ∃ held : Result, held.IsNewestIn segment ∧ held.url = url ∧ held.cached = entry := by
  intro cache ledger
  have tracks : Tracks ledger cache := Tracks.empty.after operations
  refine ⟨fun url tokens version => ⟨tracks.describes.follows_store url tokens version, ?_⟩,
    tracks.describes.get?_eq_some_iff, tracks.describes.exists_urls, ?_, ?_⟩
  · rcases cache.store_cases url tokens version with ⟨held, newer, -, -, storeEq⟩ | ⟨-, storeEq⟩
    · rw [storeEq]
      exact fun _ => rfl
    · rw [storeEq]
      intro isSuperseded
      cases isSuperseded
  · intro url earlier segment later split afresh stays before after tokens previous written
    have consistent := tracks.consistent url
    rw [split] at consistent
    exact (consistent.of_append.since afresh).displaced stays written
  · intro url earlier segment split afresh stays known entry
    have consistent := tracks.consistent url
    rw [split] at consistent
    rw [tracks.describes url entry, split]
    refine exists_congr fun held => and_congr_left fun ⟨isUrl, _⟩ => ?_
    rw [Result.standsIn_append_iff (StartsAfresh.not_standsIn (isUrl ▸ afresh)) segment,
      (consistent.since afresh).standsIn_iff_isNewestIn stays known held isUrl]

def bareArray (id : String) : TokenArray where
  resultId := some id
  data := []

/-- Versions that rise from below zero, fall behind and come level again, with another document that
comes and goes. -/
def tiedOperations : List CacheOperation :=
  [.store ⟨"a:b"⟩ (bareArray "0") (some (-2)), .store ⟨"a:b"⟩ (bareArray "1") (some 5),
    .store ⟨"a:c"⟩ (bareArray "2") none, .store ⟨"a:b"⟩ (bareArray "3") (some 4), .get ⟨"a:b"⟩,
    .remove ⟨"a:c"⟩, .store ⟨"a:b"⟩ (bareArray "4") (some 5), .size]

def tiedEarlier : List LedgerEntry :=
  [.served ⟨⟨"a:b"⟩, bareArray "0", some (-2), .stored none⟩,
    .served ⟨⟨"a:b"⟩, bareArray "1", some 5, .stored (some (bareArray "0"))⟩,
    .served ⟨⟨"a:c"⟩, bareArray "2", none, .stored none⟩,
    .served ⟨⟨"a:b"⟩, bareArray "3", some 4, .superseded 5⟩,
    .closed ⟨"a:c"⟩]

def tiedResult : Result where
  url := ⟨"a:b"⟩
  tokens := bareArray "4"
  version := some 5
  outcome := .stored (some (bareArray "1"))

theorem tied_version_le
    {attempted : Result}
    (member : .served attempted ∈ tiedEarlier ++ [.served tiedResult])
    (isUrl : attempted.url = ⟨"a:b"⟩) :
    ∃ version, attempted.version = some version ∧ version ≤ 5 := by
  simp only [tiedEarlier, List.cons_append, List.nil_append, List.mem_cons, List.not_mem_nil,
    LedgerEntry.served.injEq, reduceCtorEq, or_false, false_or] at member
  rcases member with rfl | rfl | rfl | rfl | rfl
  · exact ⟨-2, rfl, by decide⟩
  · exact ⟨5, rfl, by decide⟩
  · exact absurd isUrl (by decide)
  · exact ⟨4, rfl, by decide⟩
  · exact ⟨5, rfl, by decide⟩

/-- The first array of version 5 outlasts one of version 4. The second displaces it, is held as the
latest of the highest version, and would outlast one of version 3. -/
theorem cache_refines_ledger_tied :
    let cache := Cache.empty.after tiedOperations
    let displaced := (tiedEarlier.filterMap (LedgerEntry.written? ⟨"a:b"⟩)).getLast?.map Prod.fst
    Cache.empty.ledger tiedOperations = tiedEarlier ++ [.served tiedResult] ∧
      cache.store ⟨"a:b"⟩ (bareArray "5") (some 3) = (.superseded 5, cache) ∧
      cache.get? ⟨"a:b"⟩ = some (bareArray "4") ∧
      some (bareArray "1") = displaced ∧
      cache.entries[(⟨"a:b"⟩ : Url)]? = some ⟨bareArray "4", some 5⟩ := by
  intro cache displaced
  have listed : Cache.empty.ledger tiedOperations = tiedEarlier ++ [.served tiedResult] := by
    decide +kernel
  obtain ⟨stores, gets, -, chain, newest⟩ := cache_refines_ledger tiedOperations
  rw [listed] at stores gets chain newest
  have afresh : StartsAfresh ⟨"a:b"⟩ [] := Or.inl rfl
  have stays : .closed ⟨"a:b"⟩ ∉ tiedEarlier ++ [.served tiedResult] := by decide
  have stands : tiedResult.StandsIn (tiedEarlier ++ [.served tiedResult]) :=
    ⟨tiedEarlier, [], rfl, rfl, by simp, by simp⟩
  obtain ⟨follows, unchanged⟩ := stores ⟨"a:b"⟩ (bareArray "5") (some 3)
  have superseded : (cache.store ⟨"a:b"⟩ (bareArray "5") (some 3)).1 = .superseded 5 :=
    (follows.superseded_iff 5).mpr ⟨tiedResult, stands, rfl, rfl, 3, 5, rfl, rfl, by decide⟩
  refine ⟨listed, Prod.ext superseded (unchanged ?_), ?_, ?_, ?_⟩
  · rw [superseded]
    rfl
  · exact (gets _ _).mpr ⟨tiedResult, stands, rfl, rfl⟩
  · have written :
        (tiedEarlier ++ [LedgerEntry.served tiedResult]).filterMap (LedgerEntry.written? ⟨"a:b"⟩) =
          tiedEarlier.filterMap (LedgerEntry.written? ⟨"a:b"⟩) ++
            [(bareArray "4", some (bareArray "1"))] :=
      List.filterMap_append
    exact chain ⟨"a:b"⟩ [] _ [] (by simp) afresh stays _ [] _ _ written
  · refine (newest ⟨"a:b"⟩ [] _ rfl afresh stays ?_ _).mpr ⟨tiedResult, ?_, rfl, rfl⟩
    · intro attempted member isUrl
      obtain ⟨version, hasVersion, -⟩ := tied_version_le member isUrl
      exact ⟨version, hasVersion⟩
    · refine ⟨tiedEarlier, [], 5, rfl, rfl, ?_, by simp⟩
      intro attempted version member isUrl hasVersion
      obtain ⟨attemptedVersion, isAttempted, atMost⟩ :=
        tied_version_le (List.mem_append_left _ member) isUrl
      rw [hasVersion, Option.some.injEq] at isAttempted
      rwa [isAttempted]

end Highlight
