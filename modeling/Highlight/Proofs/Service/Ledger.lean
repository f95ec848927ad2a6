import Highlight.Proofs.Service.Client
import Highlight.Proofs.Service.Latest
import Highlight.Proofs.Service.Memo
import Mathlib.Data.List.Nodup
import Mathlib.Tactic.Tauto

/-!
Contract: when a request for edits is answered with edits.

Owns: the ledger of a run, which lists the results that were served and the
documents that were closed, the result that stands for a document, and the
invariant that the cache holds exactly the results that stand. The server looks
only at the array that its own write replaced; the ledger says what that array
is in terms of the whole run.

A result whose write was superseded is served and listed, but does not stand.
-/

set_option autoImplicit false

namespace Highlight

def StoreOutcome.isSuperseded : StoreOutcome → Bool
  | .stored _ => false
  | .superseded _ => true

/-- An array that was served for a document, the version of the text it was computed from, and
what came of handing it to the cache. -/
structure Result where
  url : Url
  tokens : TokenArray
  version : Option Int
  outcome : StoreOutcome
  deriving DecidableEq, Repr

inductive LedgerEntry where
  | served (result : Result)
  | closed (url : Url)
  deriving DecidableEq, Repr

def LedgerEntry.id? : LedgerEntry → Option String
  | .served result => result.tokens.resultId
  | .closed _ => none

/-- The result of a request for a document: the array that was written, with the version that the
rule gave. -/
def Session.result? (session : Session) (supplier : Supplier) (encoding : Encoding) (url : Url) :
    Option Result :=
  match (session.memo.tokens supplier url).output,
      (session.serve supplier encoding url).answer with
  | .ok document, .ok (.written tokens outcome) => some ⟨url, tokens, document.version, outcome⟩
  | _, _ => none

namespace Server

variable [UrlReading]

def added? (server : Server) : Message → Option LedgerEntry
  | .closed uri => (UrlReading.parse uri.text).toOption.map .closed
  | .request _ supplier uri =>
      (UrlReading.parse uri.text).toOption.bind fun url =>
        (server.session.result? supplier server.resolved.encoding url).map .served
  | _ => none

/-- The results served and the documents closed in a run, in order. -/
def ledger (server : Server) : List Message → List LedgerEntry
  | [] => []
  | message :: rest =>
      (server.added? message).toList ++ (server.react message).server.ledger rest

end Server

/-- The result is the most recent one of its document, since the document was last closed, whose
write was not superseded. -/
def Result.StandsIn (result : Result) (ledger : List LedgerEntry) : Prop :=
  ∃ earlier later : List LedgerEntry, ledger = earlier ++ .served result :: later ∧
    result.outcome.isSuperseded = false ∧ .closed result.url ∉ later ∧
    ∀ other : Result, .served other ∈ later → other.url = result.url →
      other.outcome.isSuperseded = true

/-- The entry puts a result in force for a document. -/
def LedgerEntry.WritesAt (url : Url) (entry : LedgerEntry) : Prop :=
  ∃ result, entry = .served result ∧ result.url = url ∧ result.outcome.isSuperseded = false

theorem LedgerEntry.not_writesAt_iff (url : Url) (entry : LedgerEntry) :
    ¬ entry.WritesAt url ↔
      ∀ other, entry = .served other → other.url = url → other.outcome.isSuperseded = true := by
  simp [WritesAt]

/-- A result stands if it is the latest one that was put in force and not closed. -/
theorem Result.standsIn_iff_isLatest (result : Result) (ledger : List LedgerEntry) :
    result.StandsIn ledger ↔
      IsLatest (LedgerEntry.WritesAt result.url) (· = .closed result.url) ledger
        (.served result) := by
  constructor
  · rintro ⟨earlier, later, split, written, stillOpen, unreplaced⟩
    refine ⟨earlier, later, split, ⟨result, rfl, rfl, written⟩, fun other member => ⟨?_, ?_⟩⟩
    · rw [LedgerEntry.not_writesAt_iff]
      rintro replacing rfl
      exact unreplaced replacing member
    · rintro rfl
      exact stillOpen member
  · rintro ⟨earlier, later, split, writes, undisturbed⟩
    obtain ⟨_, isResult, -, written⟩ := writes
    obtain rfl := LedgerEntry.served.inj isResult
    refine ⟨earlier, later, split, written, fun member => ?_, fun other member => ?_⟩
    · exact (undisturbed _ member).2 rfl
    · exact (LedgerEntry.not_writesAt_iff _ _).mp (undisturbed _ member).1 other rfl

/-- After one more entry, a result stands if it is that entry, or if it stood before and the entry
neither closes its document nor puts another result in its place. -/
theorem Result.standsIn_append_singleton_iff
    (result : Result)
    (ledger : List LedgerEntry)
    (entry : LedgerEntry) :
    result.StandsIn (ledger ++ [entry]) ↔
      (entry = .served result ∧ result.outcome.isSuperseded = false) ∨
        (result.StandsIn ledger ∧ entry ≠ .closed result.url ∧
          ∀ other, entry = .served other → other.url = result.url →
            other.outcome.isSuperseded = true) := by
  have writesSelf : (LedgerEntry.served result).WritesAt result.url ↔
      result.outcome.isSuperseded = false := by
    simp [LedgerEntry.WritesAt]
  rw [standsIn_iff_isLatest, standsIn_iff_isLatest, IsLatest.append_singleton_iff, writesSelf,
    LedgerEntry.not_writesAt_iff]
  tauto

/-- A result of another document, or one that was superseded, does not change what stands. -/
theorem Result.standsIn_append_served_iff
    (ledger : List LedgerEntry)
    {served result : Result}
    (elsewhere : served.url = result.url → served.outcome.isSuperseded = true) :
    result.StandsIn (ledger ++ [.served served]) ↔ result.StandsIn ledger := by
  rw [Result.standsIn_append_singleton_iff]
  constructor
  · rintro (⟨isServed, written⟩ | ⟨stands, -⟩)
    · cases isServed
      rw [elsewhere rfl] at written
      cases written
    · exact stands
  · intro stands
    refine Or.inr ⟨stands, nofun, ?_⟩
    intro other isServed
    cases isServed
    exact elsewhere

/-- Two entries with one id are the same entry at the same place. -/
theorem eq_of_id?_eq_some
    {ledger earlier later before after : List LedgerEntry}
    (distinct : (ledger.filterMap LedgerEntry.id?).Nodup)
    {first second : LedgerEntry}
    {id : String}
    (firstSplit : ledger = earlier ++ first :: later)
    (secondSplit : ledger = before ++ second :: after)
    (firstId : first.id? = some id)
    (secondId : second.id? = some id) :
    earlier = before ∧ first = second ∧ later = after := by
  rw [firstSplit, List.filterMap_append, List.filterMap_cons_some firstId,
    List.nodup_middle] at distinct
  have unique := (List.nodup_cons.mp distinct).1
  rw [List.mem_append, not_or] at unique
  have notEarlier : second ∉ earlier := fun member =>
    unique.1 (List.mem_filterMap.mpr ⟨second, member, secondId⟩)
  have notLater : second ∉ later := fun member =>
    unique.2 (List.mem_filterMap.mpr ⟨second, member, secondId⟩)
  exact (List.append_cons_inj_of_notMem notEarlier notLater).mp (firstSplit.symm.trans secondSplit)

/-- A result with the id of the one that stands is of the same document, was not superseded, and
has neither been forgotten nor replaced since. -/
theorem Result.StandsIn.not_lost
    {ledger earlier later : List LedgerEntry}
    {result other : Result}
    (stands : result.StandsIn ledger)
    (distinct : (ledger.filterMap LedgerEntry.id?).Nodup)
    {id : String}
    (hasId : result.tokens.resultId = some id)
    (split : ledger = earlier ++ .served other :: later)
    (otherId : other.tokens.resultId = some id) :
    ¬ (other.url ≠ result.url ∨ other.outcome.isSuperseded = true ∨ .closed result.url ∈ later ∨
      ∃ next : Result, .served next ∈ later ∧ next.url = result.url ∧
        next.outcome.isSuperseded = false) := by
  obtain ⟨before, after, standsAt, written, stillOpen, unreplaced⟩ := stands
  -- Ids are distinct, so the two are one result at one place of the ledger.
  obtain ⟨-, same, rfl⟩ := eq_of_id?_eq_some distinct split standsAt otherId hasId
  cases same
  rintro (elsewhere | superseded | isClosed | ⟨next, member, sameUrl, replaces⟩)
  · exact elsewhere rfl
  · cases written.symm.trans superseded
  · exact stillOpen isClosed
  · cases replaces.symm.trans (unreplaced next member sameUrl)

/-! ### What a message adds -/

namespace Server

variable [UrlReading]

theorem added?_request
    (server : Server)
    (form : RequestForm)
    (supplier : Supplier)
    {uri : Uri}
    {url : Url}
    (parsed : UrlReading.parse uri.text = .ok url) :
    server.added? (.request form supplier uri) =
      (server.session.result? supplier server.resolved.encoding url).map .served := by
  rw [added?, parsed]
  rfl

theorem Serves.added?_eq_some
    {server : Server}
    {message : Message}
    {form : RequestForm}
    {url : Url}
    {data : List WireToken}
    {version : Option Int}
    (serves : server.Serves message form url data version) :
    server.added? message =
      some (.served ⟨url, server.session.stamped data, version,
        (server.session.cache.store url (server.session.stamped data) version).1⟩) := by
  obtain ⟨supplier, uri, tokens, rfl, outputEq, encoded⟩ := serves.computed
  have parsed := (Message.document?_request_eq_some_iff _ _ _ _).mp serves.document
  rw [server.added?_request _ _ parsed, Session.result?, outputEq,
    server.session.serve_of_encode_ok _ outputEq encoded]
  rfl

theorem Quiet.added?_request_eq_none
    {server : Server}
    {form : RequestForm}
    {supplier : Supplier}
    {uri : Uri}
    (quiet : server.Quiet (.request form supplier uri)) :
    server.added? (.request form supplier uri) = none := by
  cases parsed : UrlReading.parse uri.text with
  | error reason => simp [added?, parsed, Except.toOption]
  | ok url =>
      rw [server.added?_request _ _ parsed, Session.result?]
      cases outputEq : (server.session.memo.tokens supplier url).output with
      | error failure => rfl
      | ok document =>
          cases encoded : server.resolved.encoding.encode document.tokens with
          | error fault =>
              rw [server.session.serve_of_encode_error _ outputEq encoded]
              rfl
          | ok data =>
              have serves := server.serves_of_encode_ok form parsed outputEq encoded
              cases quiet.served?_eq_none.symm.trans serves.served?_eq_some

theorem Quiet.cache_of_not_closed
    {server : Server}
    {message : Message}
    (quiet : server.Quiet message)
    (notClosed : ∀ uri, message ≠ .closed uri) :
    (server.react message).server.session.cache = server.session.cache := by
  rcases quiet.cache with same | ⟨uri, _, isClosed, -⟩
  · exact same
  · exact absurd isClosed (notClosed uri)

/-- A message that adds nothing leaves the cache alone, one that closes a document removes it, and
one that serves a result hands it to the cache. -/
theorem added?_cases (server : Server) (message : Message) :
    let cache := server.session.cache
    let next := (server.react message).server.session.cache
    (server.added? message = none ∧ next = cache ∧
        Exchange.served? ⟨message, server.react message⟩ = none) ∨
      (∃ url, server.added? message = some (.closed url) ∧ next = cache.remove url ∧
        Exchange.served? ⟨message, server.react message⟩ = none) ∨
      ∃ url tokens version id, tokens.resultId = some id ∧
        server.added? message =
          some (.served ⟨url, tokens, version, (cache.store url tokens version).1⟩) ∧
        next = (cache.store url tokens version).2 ∧
        Exchange.served? ⟨message, server.react message⟩ = some (url, id) := by
  intro cache next
  rcases server.react_cases message with quiet | ⟨form, url, data, version, serves⟩
  · cases message with
    | closed uri =>
        cases parsed : UrlReading.parse uri.text with
        | error reason =>
            refine Or.inl ⟨?_, ?_, quiet.served?_eq_none⟩
            · simp [added?, parsed, Except.toOption]
            · simp only [next, server.react_closed_invalid parsed, cache]
        | ok url =>
            refine Or.inr (Or.inl ⟨url, ?_, ?_, quiet.served?_eq_none⟩)
            · simp [added?, parsed, Except.toOption]
            · simp only [next, server.react_closed parsed, cache]
    | request form supplier uri =>
        exact Or.inl ⟨quiet.added?_request_eq_none, quiet.cache_of_not_closed (by simp),
          quiet.served?_eq_none⟩
    | start options =>
        exact Or.inl ⟨rfl, quiet.cache_of_not_closed (by simp), quiet.served?_eq_none⟩
    | configure payload =>
        exact Or.inl ⟨rfl, quiet.cache_of_not_closed (by simp), quiet.served?_eq_none⟩
    | opened uri version =>
        exact Or.inl ⟨rfl, quiet.cache_of_not_closed (by simp), quiet.served?_eq_none⟩
    | shutdown => exact Or.inl ⟨rfl, quiet.cache_of_not_closed (by simp), quiet.served?_eq_none⟩
  · exact Or.inr (Or.inr ⟨url, server.session.stamped data, version, _, rfl,
      serves.added?_eq_some, serves.cache, serves.served?_eq_some⟩)

end Server

/-! ### The cache holds the results that stand -/

def Result.cached (result : Result) : CacheEntry where
  tokens := result.tokens
  version := result.version

/-- The cache holds for each document the result that stands, and nothing else. -/
def Describes (ledger : List LedgerEntry) (cache : Cache) : Prop :=
  ∀ (url : Url) (entry : CacheEntry), cache.entries[url]? = some entry ↔
    ∃ result : Result, result.StandsIn ledger ∧ result.url = url ∧ result.cached = entry

namespace Describes

theorem empty : Describes [] Cache.empty := by
  intro url entry
  constructor
  · intro found
    rw [Cache.empty, Std.ExtTreeMap.getElem?_empty] at found
    cases found
  · rintro ⟨result, ⟨earlier, later, split, -⟩, -⟩
    simp at split

variable {ledger : List LedgerEntry} {cache : Cache} (describes : Describes ledger cache)
include describes

theorem close (url : Url) : Describes (ledger ++ [.closed url]) (cache.remove url) := by
  intro other entry
  rw [Cache.entries_remove]
  by_cases same : url = other
  · rw [if_pos same]
    refine ⟨nofun, ?_⟩
    rintro ⟨result, stands, rfl, -⟩
    rw [Result.standsIn_append_singleton_iff, ← same] at stands
    rcases stands with ⟨isServed, -⟩ | ⟨-, notClosed, -⟩
    · cases isServed
    · exact absurd rfl notClosed
  · rw [if_neg same, describes other entry]
    refine exists_congr fun result => and_congr_left fun ⟨isOther, _⟩ => ?_
    rw [Result.standsIn_append_singleton_iff, isOther]
    simp [same]

theorem serve (url : Url) (tokens : TokenArray) (version : Option Int) :
    Describes
      (ledger ++ [.served ⟨url, tokens, version, (cache.store url tokens version).1⟩])
      (cache.store url tokens version).2 := by
  intro other entry
  rcases cache.store_cases url tokens version with ⟨held, newer, -, -, storeEq⟩ | ⟨-, storeEq⟩
  · rw [storeEq, describes other entry]
    refine exists_congr fun result => and_congr_left fun _ => ?_
    exact (Result.standsIn_append_served_iff ledger fun _ => rfl).symm
  · rw [storeEq, Cache.entries_put]
    by_cases same : url = other
    · rw [if_pos same]
      constructor
      · intro written
        refine ⟨⟨url, tokens, version, .stored (cache.get? url)⟩, ?_, same, Option.some.inj written⟩
        exact (Result.standsIn_append_singleton_iff _ _ _).mpr (Or.inl ⟨rfl, rfl⟩)
      · rintro ⟨result, stands, isOther, rfl⟩
        rcases (Result.standsIn_append_singleton_iff _ _ _).mp stands with
          ⟨isServed, -⟩ | ⟨-, -, kept⟩
        · cases isServed
          rfl
        · cases kept _ rfl (same.trans isOther.symm)
    · rw [if_neg same, describes other entry]
      refine exists_congr fun result => and_congr_left fun ⟨isOther, _⟩ => ?_
      refine (Result.standsIn_append_served_iff ledger fun sameUrl => ?_).symm
      exact absurd (sameUrl.trans isOther) same

end Describes

namespace Server

variable [UrlReading]

/-- One message keeps the ledger and the cache together. -/
theorem describes_react
    {server : Server}
    {ledger : List LedgerEntry}
    (describes : Describes ledger server.session.cache)
    (message : Message) :
    Describes (ledger ++ (server.added? message).toList)
      (server.react message).server.session.cache := by
  rcases server.added?_cases message with
    ⟨noEntry, cacheEq, -⟩ | ⟨url, isClosed, cacheEq, -⟩ |
      ⟨url, tokens, version, _, -, isServed, cacheEq, -⟩
  · rw [noEntry, cacheEq, Option.toList_none, List.append_nil]
    exact describes
  · rw [isClosed, cacheEq]
    exact describes.close url
  · rw [isServed, cacheEq]
    exact describes.serve url tokens version

theorem describes_after
    {server : Server}
    {past : List LedgerEntry}
    (describes : Describes past server.session.cache)
    (messages : List Message) :
    Describes (past ++ server.ledger messages) (server.after messages).session.cache := by
  induction messages generalizing server past with
  | nil =>
      rw [ledger, List.append_nil]
      exact describes
  | cons message rest inductionHypothesis =>
      rw [ledger, after, ← List.append_assoc]
      exact inductionHypothesis (server.describes_react describes message)

theorem describes_fresh_after (messages : List Message) :
    Describes (Server.fresh.ledger messages) (Server.fresh.after messages).session.cache := by
  have atStart : Describes [] Server.fresh.session.cache := Describes.empty
  have described := describes_after atStart messages
  rwa [List.nil_append] at described

/-- The ids in the ledger are those that the run served. -/
theorem filterMap_id?_ledger (server : Server) (messages : List Message) :
    (server.ledger messages).filterMap LedgerEntry.id? =
      (served (server.trace messages)).map Prod.snd := by
  induction messages generalizing server with
  | nil => rfl
  | cons message rest inductionHypothesis =>
      rw [ledger, trace, List.filterMap_append, inductionHypothesis]
      rcases server.added?_cases message with
        ⟨noEntry, -, notServed⟩ | ⟨url, isClosed, -, notServed⟩ |
          ⟨url, tokens, version, id, hasId, isServed, -, wasServed⟩
      · simp [noEntry, served, notServed]
      · simp [isClosed, LedgerEntry.id?, served, notServed]
      · simp [isServed, LedgerEntry.id?, hasId, served, wasServed]

end Server

/-- As long as the counter does not come round, no id is in the ledger twice. -/
theorem nodup_ledger_ids
    [UrlReading]
    (messages : List Message)
    (idsFit : (served (Server.fresh.trace messages)).length < 2 ^ 64) :
    ((Server.fresh.ledger messages).filterMap LedgerEntry.id?).Nodup := by
  rw [Server.filterMap_id?_ledger, (numbered_trace messages idsFit).numerals]
  exact List.nodup_range.map fun _ _ same => Nat.repr_injective same

/-- The id that a run takes next is not in its ledger. -/
theorem resultId_ne_next_of_served
    [UrlReading]
    (messages : List Message)
    (idsFit : (served (Server.fresh.trace messages)).length < 2 ^ 64)
    {result : Result}
    (member : .served result ∈ Server.fresh.ledger messages) :
    result.tokens.resultId ≠
      some (IdSource.text (Server.fresh.after messages).session.ids.next) := by
  intro hasId
  have isListed := List.mem_filterMap.mpr ⟨_, member, show LedgerEntry.id? _ = _ from hasId⟩
  rw [Server.filterMap_id?_ledger] at isListed
  obtain ⟨entry, wasServed, same⟩ := List.mem_map.mp isListed
  exact (numbered_trace messages idsFit).ne_next_of_mem wasServed same

/-- The answer to a request for edits that serves an array: edits against the result that stands,
or the array. -/
theorem Server.Serves.answer_of_describes
    [UrlReading]
    {server : Server}
    {message : Message}
    {held : String}
    {url : Url}
    {data : List WireToken}
    {version : Option Int}
    (serves : server.Serves message (.delta held) url data version)
    {ledger : List LedgerEntry}
    (describes : Describes ledger server.session.cache) :
    (∃ result : Result, (result.StandsIn ledger ∧ result.url = url ∧
          result.tokens.resultId = some held ∧ ¬ IsOlder version result.version) ∧
        (server.react message).answer =
          .delta (.ok (.delta (result.tokens.delta (server.session.stamped data))))) ∨
      ((¬ ∃ result : Result, result.StandsIn ledger ∧ result.url = url ∧
          result.tokens.resultId = some held ∧ ¬ IsOlder version result.version) ∧
        (server.react message).answer = .delta (.ok (.full (server.session.stamped data)))) := by
  rw [serves.answer]
  rcases Session.deltaAnswer_store_cases held server.session.cache url
      (server.session.stamped data) version with
    ⟨entry, isHeld, hasId, notOlder, isDelta⟩ | ⟨allOlder, isFull⟩
  · obtain ⟨result, stands, isUrl, rfl⟩ := (describes url entry).mp isHeld
    exact Or.inl ⟨result, ⟨stands, isUrl, hasId, notOlder⟩,
      congrArg (fun response => Answer.delta (.ok response)) isDelta⟩
  · refine Or.inr ⟨?_, congrArg (fun response => Answer.delta (.ok response)) isFull⟩
    rintro ⟨result, stands, isUrl, hasId, notOlder⟩
    have isHeld := (describes url result.cached).mpr ⟨result, stands, isUrl, rfl⟩
    exact notOlder (allOlder result.cached isHeld hasId)

/-- When edits are sent. Asked for the edits since an id, for a document whose tokens the rule has,
the server sends edits exactly when the result that stands for the document has that id and the
tokens are not of an older version. In every other case it sends all tokens, under an id that no
result had before. So it does for the id of a result of another document, of one whose write was
superseded, of one from before the document was closed, and of one that another has replaced. -/
theorem edits_iff_result_stands
    [UrlReading]
    (messages : List Message)
    (idsFit : (served (Server.fresh.trace messages)).length < 2 ^ 64)
    (held : String)
    (supplier : Supplier)
    (uri : Uri)
    (url : Url)
    (parsed : UrlReading.parse uri.text = .ok url)
    (document : DocumentTokens)
    (computed : ((Server.fresh.after messages).session.memo.tokens supplier url).output =
      .ok document) :
    let ledger := Server.fresh.ledger messages
    let server := Server.fresh.after messages
    let answer := (server.react (.request (.delta held) supplier uri)).answer
    ∃ id data,
      server.resolved.encoding.encode document.tokens = .ok data ∧
      (∀ result : Result, .served result ∈ ledger → result.tokens.resultId ≠ some id) ∧
      ((∃ edits, answer = .delta (.ok (.delta edits))) ↔
        ∃ result : Result, result.StandsIn ledger ∧ result.url = url ∧
          result.tokens.resultId = some held ∧ ¬ IsOlder document.version result.version) ∧
      ((¬ ∃ edits, answer = .delta (.ok (.delta edits))) →
        answer = .delta (.ok (.full ⟨some id, data⟩))) ∧
      ∀ (result : Result) (earlier later : List LedgerEntry),
        ledger = earlier ++ .served result :: later →
        result.tokens.resultId = some held →
        (result.url ≠ url ∨ result.outcome.isSuperseded = true ∨ .closed url ∈ later ∨
          ∃ next, .served next ∈ later ∧ next.url = url ∧ next.outcome.isSuperseded = false) →
        answer = .delta (.ok (.full ⟨some id, data⟩)) := by
  intro ledger server answer
  obtain ⟨data, encoded⟩ :=
    Server.exists_encode_ok_of_fresh_after messages computed server.resolved.encoding
  have serves := server.serves_of_encode_ok (.delta held) parsed computed encoded
  refine ⟨_, data, encoded, fun _ => resultId_ne_next_of_served messages idsFit, ?_⟩
  rcases serves.answer_of_describes (Server.describes_fresh_after messages) with
    ⟨standing, isStanding, isDelta⟩ | ⟨noneStands, isFull⟩
  · have isEdits : ∃ edits, answer = .delta (.ok (.delta edits)) := ⟨_, isDelta⟩
    refine ⟨⟨fun _ => ⟨standing, isStanding⟩, fun _ => isEdits⟩,
      fun noEdits => absurd isEdits noEdits, ?_⟩
    intro result earlier later split hasId lost
    obtain ⟨stands, rfl, standingId, -⟩ := isStanding
    have distinct := nodup_ledger_ids messages idsFit
    exact absurd lost (stands.not_lost distinct standingId split hasId)
  · refine ⟨⟨?_, fun stands => absurd stands noneStands⟩, fun _ => isFull,
      fun _ _ _ _ _ _ => isFull⟩
    rintro ⟨edits, isDelta⟩
    cases isFull.symm.trans isDelta

def versionedBuild (version : Int) (fingerprint : UInt64) : Supplier :=
  { pairBuild [letterAt 0 "f"] fingerprint with
    document := fun _ => .present ⟨"f g", some version⟩ }

/-- All tokens, asked for at version 5 and then, from a build that lags behind, at version 4. -/
def laggingRun : List Message :=
  [.request .full (versionedBuild 5 0) ⟨"a:b"⟩, .request .full (versionedBuild 4 1) ⟨"a:b"⟩]

def laggingLedger : List LedgerEntry :=
  [.served ⟨⟨"a:b"⟩, ⟨some "0", [⟨0, 0, 1, 17, 0⟩]⟩, some 5, .stored none⟩,
    .served ⟨⟨"a:b"⟩, ⟨some "1", [⟨0, 0, 1, 17, 0⟩]⟩, some 4, .superseded 5⟩]

/-- The id that stands is answered with edits, though another was served after it; the id of the
superseded result is answered with all tokens. -/
theorem edits_iff_result_stands_lagging :
    (served (Server.fresh.trace laggingRun)).length < 2 ^ 64 ∧
      ((Server.fresh.after laggingRun).session.memo.tokens (versionedBuild 5 2) ⟨"a:b"⟩).output =
        .ok ⟨[Encoding.variableAt ⟨0, 0, 1⟩], some 5⟩ ∧
      (∃ edits, ((Server.fresh.after laggingRun).react
          (.request (.delta "0") (versionedBuild 5 2) ⟨"a:b"⟩)).answer =
        .delta (.ok (.delta edits))) ∧
      ∃ id data, ((Server.fresh.after laggingRun).react
          (.request (.delta "1") (versionedBuild 5 2) ⟨"a:b"⟩)).answer =
        .delta (.ok (.full ⟨some id, data⟩)) := by
  have parsed : UrlReading.parse "a:b" = .ok ⟨"a:b"⟩ := rfl
  have idsFit : (served (Server.fresh.trace laggingRun)).length < 2 ^ 64 :=
    Nat.lt_of_le_of_lt (List.length_filterMap_le _ _) (by decide)
  have listed : Server.fresh.ledger laggingRun = laggingLedger := by
    rw [laggingRun, Server.ledger, Server.ledger, Server.added?_request _ _ _ parsed,
      Server.react_request _ _ _ parsed, Server.added?_request _ _ _ parsed]
    decide +kernel
  have computed :
      ((Server.fresh.after laggingRun).session.memo.tokens (versionedBuild 5 2) ⟨"a:b"⟩).output =
        .ok ⟨[Encoding.variableAt ⟨0, 0, 1⟩], some 5⟩ := by
    rw [laggingRun, Server.after, Server.after, Server.react_request _ _ _ parsed,
      Server.react_request _ _ _ parsed]
    decide +kernel
  obtain ⟨-, -, -, -, sendsEdits, -⟩ := edits_iff_result_stands laggingRun idsFit "0"
    (versionedBuild 5 2) ⟨"a:b"⟩ ⟨"a:b"⟩ parsed _ computed
  obtain ⟨id, data, -, -, -, -, sendsAll⟩ := edits_iff_result_stands laggingRun idsFit "1"
    (versionedBuild 5 2) ⟨"a:b"⟩ ⟨"a:b"⟩ parsed _ computed
  rw [listed] at sendsEdits sendsAll
  refine ⟨idsFit, computed, sendsEdits.mpr ?_, id, data, ?_⟩
  · refine ⟨_, ⟨[], _, rfl, rfl, by simp, by simp [StoreOutcome.isSuperseded]⟩, rfl, rfl, ?_⟩
    simp [IsOlder]
  · exact sendsAll _ [_] [] rfl rfl (Or.inr (Or.inl rfl))

end Highlight
