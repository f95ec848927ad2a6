import Highlight.Proofs.Service.Renaming
import Highlight.Proofs.Service.Replay

/-!
Contract: documents do not interfere with each other.

Owns: the run that is left of a run when all that concerns other documents is
taken out, and the relation between the two servers: they have the same
settings, and for the one document the same memo and the same cache up to a
renaming of ids. All documents share one counter, so ids differ, but the
renaming keeps their order, and every other part of an answer is the same.

A URI that is no URL concerns no document and stands for itself.
-/

set_option autoImplicit false

namespace Highlight

/-! ### The run of one document -/

section Reading

variable [UrlReading]

/-- What a URI stands for: the document of its URL, or itself, if it is no URL. -/
def Uri.subject (uri : Uri) : Url ⊕ Uri :=
  match UrlReading.parse uri.text with
  | .ok url => .inl url
  | .error _ => .inr uri

theorem Uri.subject_of_ok
    {uri : Uri}
    {url : Url}
    (parsed : UrlReading.parse uri.text = .ok url) :
    uri.subject = .inl url := by
  rw [subject, parsed]

/-- The message without what concerns other documents, if anything is left of it. -/
def Message.isolated? (subject : Url ⊕ Uri) (rename : String → String) :
    Message → Option Message
  | .closed uri => if uri.subject = subject then some (.closed uri) else none
  | .request form supplier uri =>
      if uri.subject = subject then some (.request (form.renamed rename) supplier uri) else none
  | message => some message

def Exchange.answerTo? (subject : Url ⊕ Uri) (exchange : Exchange) : Option Answer :=
  match exchange.message with
  | .request _ _ uri => if uri.subject = subject then some exchange.reply.answer else none
  | _ => none

def answersTo (subject : Url ⊕ Uri) (history : List Exchange) : List Answer :=
  history.filterMap (Exchange.answerTo? subject)

def resultIdsTo (subject : Url ⊕ Uri) (history : List Exchange) : List String :=
  (answersTo subject history).filterMap Answer.resultId?

/-- The messages of a run without what concerns other documents. Two servers are taken along, one
for each run; an id that a request holds is replaced by the one that the second server gave in the
same place, and an id that was not served for the document by a spare one. -/
def Server.isolate (subject : Url ⊕ Uri) (spare : String → String) (whole alone : Server)
    (pairs : Renaming) : List Message → List Message
  | [] => []
  | message :: rest =>
      let reply := whole.react message
      match message.isolated? subject (pairs.apply spare) with
      | none => reply.server.isolate subject spare alone pairs rest
      | some kept =>
          let aloneReply := alone.react kept
          kept :: reply.server.isolate subject spare aloneReply.server
            (pairs ++ reply.answer.paired aloneReply.answer) rest

def isolatedRun (uri : Uri) (spare : String → String) (messages : List Message) : List Message :=
  Server.fresh.isolate uri.subject spare Server.fresh [] messages

/-- The ids served for a document in a run, each with the one in the same place of the run without
what concerns other documents. -/
def isolationPairs (uri : Uri) (spare : String → String) (messages : List Message) : Renaming :=
  (resultIdsTo uri.subject (Server.fresh.trace messages)).zip
    (resultIdsTo uri.subject (Server.fresh.trace (isolatedRun uri spare messages)))

/-- Two exchanges in the same place of the two runs: neither is a request for the document, and no
id is in their answers, or both are, and their answers match. -/
def Exchange.Parallels (subject : Url ⊕ Uri) (pairs : Renaming) (exchange other : Exchange) :
    Prop :=
  (exchange.answerTo? subject = none ∧ other.answerTo? subject = none ∧
      exchange.reply.answer.paired other.reply.answer = []) ∨
    (exchange.answerTo? subject = some exchange.reply.answer ∧
      other.answerTo? subject = some other.reply.answer ∧
      exchange.reply.answer.Matches pairs other.reply.answer)

end Reading

/-! ### What a request reads and writes -/

namespace Memo

variable {memo : Memo} {supplier : Supplier} {url : Url}

/-- A call does not reach other documents. -/
theorem entries_tokens_of_ne
    (memo : Memo)
    (supplier : Supplier)
    {other : Url}
    (different : url ≠ other) :
    (memo.tokens supplier url).memo.entries[other]? = memo.entries[other]? := by
  rcases memo.ask_cases supplier url with
    ⟨same, -⟩ | ⟨same, -⟩ | ⟨_, _, _, _, -, -, entriesEq⟩
  · rw [same]
  · rw [same]
  · rw [entriesEq, if_neg different]

/-- A call depends on the memo only for the document it is about. -/
theorem tokens_congr
    {other : Memo}
    (supplier : Supplier)
    (same : other.entries[url]? = memo.entries[url]?) :
    (other.tokens supplier url).output = (memo.tokens supplier url).output ∧
      (other.tokens supplier url).memo.entries[url]? =
        (memo.tokens supplier url).memo.entries[url]? := by
  have sameFind (fingerprints : Fingerprints) :
      other.find? url fingerprints = memo.find? url fingerprints := by
    rw [find?, find?, same]
  have sameCompute (tree : Snapshot AnnotatedTree) (names : Snapshot NameMap)
      (document : Option Document) :
      (other.compute url tree names document).output =
          (memo.compute url tree names document).output ∧
        (other.compute url tree names document).memo.entries[url]? =
          (memo.compute url tree names document).memo.entries[url]? := by
    refine ⟨rfl, ?_⟩
    by_cases lasting :
        (computeTokens url tree.content names.content document).isLasting = true
    · simp only [compute, entries_remember_of_lasting _ _ _ _ lasting, ↓reduceIte]
    · simp only [compute, remember_of_not_lasting _ _ _ lasting, same]
  rw [tokens, tokens]
  cases supplier.tree url with
  | broken => exact ⟨rfl, same⟩
  | absent => exact ⟨rfl, same⟩
  | present tree =>
      cases supplier.names url with
      | broken => exact ⟨rfl, same⟩
      | absent => exact ⟨rfl, same⟩
      | present names =>
          simp only [sameFind]
          cases memo.find? url ⟨tree.fingerprint, names.fingerprint⟩ with
          | some output => exact ⟨rfl, same⟩
          | none =>
              cases supplier.document url with
              | broken => exact ⟨rfl, same⟩
              | absent => exact sameCompute tree names none
              | present document => exact sameCompute tree names (some document)

end Memo

/-- Serving a document does not reach other documents. -/
theorem Session.serve_entries_of_ne
    (session : Session)
    (supplier : Supplier)
    (encoding : Encoding)
    {url other : Url}
    (different : url ≠ other) :
    (session.serve supplier encoding url).session.memo.entries[other]? =
        session.memo.entries[other]? ∧
      (session.serve supplier encoding url).session.cache.entries[other]? =
        session.cache.entries[other]? := by
  refine ⟨?_, ?_⟩
  · rw [serve_memo]
    exact session.memo.entries_tokens_of_ne supplier different
  · rcases session.serve_cases supplier encoding url with
      ⟨_, -, -, served⟩ | ⟨_, -, -, served⟩ | ⟨_, _, -, -, served⟩ | ⟨_, _, -, -, served⟩
    · rw [served]
    · rw [served]
    · rw [served]
    · rw [served]
      exact session.cache.entries_store_of_ne different _ _

/-- Sessions for which a call has the same output both serve no array, or both have the same data to
serve. -/
theorem Session.serve_alike
    {session other : Session}
    {supplier : Supplier}
    {url : Url}
    (encoding : Encoding)
    (sameOutput : (other.memo.tokens supplier url).output =
      (session.memo.tokens supplier url).output) :
    let reply := session.serve supplier encoding url
    let otherReply := other.serve supplier encoding url
    (∃ outcome, IsUnserved outcome ∧ reply.answer = outcome ∧ otherReply.answer = outcome ∧
        reply.session = { session with memo := (session.memo.tokens supplier url).memo } ∧
        otherReply.session = { other with memo := (other.memo.tokens supplier url).memo }) ∨
      ∃ document data, (session.memo.tokens supplier url).output = .ok document ∧
        encoding.encode document.tokens = .ok data := by
  intro reply otherReply
  rcases session.serve_cases supplier encoding url with
    ⟨failure, outputEq, recoverable, served⟩ | ⟨failure, outputEq, unrecoverable, served⟩ |
      ⟨document, fault, outputEq, refused, served⟩ | ⟨document, data, outputEq, encoded, -⟩
  · have otherServed := other.serve_of_recoverable encoding (sameOutput.trans outputEq) recoverable
    refine Or.inl ⟨_, Or.inl rfl, ?_, ?_, ?_, ?_⟩ <;>
      simp only [reply, otherReply, served, otherServed]
  · have otherServed :=
      other.serve_of_unrecoverable encoding (sameOutput.trans outputEq) unrecoverable
    refine Or.inl ⟨_, Or.inr ⟨failure, rfl⟩, ?_, ?_, ?_, ?_⟩ <;>
      simp only [reply, otherReply, served, otherServed]
  · have otherServed := other.serve_of_encode_error encoding (sameOutput.trans outputEq) refused
    refine Or.inl ⟨_, Or.inr ⟨.internal (.outOfOrder fault), rfl⟩, ?_, ?_, ?_, ?_⟩ <;>
      simp only [reply, otherReply, served, otherServed]
  · exact Or.inr ⟨document, data, outputEq, encoded⟩

namespace Server

/-- The ids that a run has yet to serve do not make the counter come round. -/
def IdsFit [UrlReading] (server : Server) (messages : List Message) : Prop :=
  server.session.ids.next.toNat + (served (server.trace messages)).length < 2 ^ 64

theorem IdsFit.of_serves
    [UrlReading]
    {server : Server}
    {message : Message}
    {rest : List Message}
    (fits : server.IdsFit (message :: rest))
    {form : RequestForm}
    {url : Url}
    {data : List WireToken}
    {version : Option Int}
    (serves : server.Serves message form url data version) :
    server.session.ids.next.toNat + 1 +
      (served ((server.react message).server.trace rest)).length < 2 ^ 64 := by
  rw [IdsFit, trace, served, List.filterMap_cons, serves.served?_eq_some, List.length_cons] at fits
  rw [served]
  omega

theorem IdsFit.react
    [UrlReading]
    {server : Server}
    {message : Message}
    {rest : List Message}
    (fits : server.IdsFit (message :: rest)) :
    (server.react message).server.IdsFit rest ∧
      server.session.ids.next.toNat ≤ (server.react message).server.session.ids.next.toNat := by
  rcases server.react_cases message with quiet | ⟨form, url, data, version, serves⟩
  · rw [IdsFit, trace, served, List.filterMap_cons, quiet.served?_eq_none] at fits
    rw [IdsFit, quiet.sameIds]
    exact ⟨fits, Nat.le_refl _⟩
  · have below := fits.of_serves serves
    have advanced :
        (server.react message).server.session.ids.next.toNat =
          server.session.ids.next.toNat + 1 := by
      rw [serves.takesId, UInt64.toNat_add]
      exact Nat.mod_eq_of_lt (by simp only [UInt64.toNat_one]; omega)
    rw [IdsFit, advanced]
    exact ⟨below, Nat.le_succ _⟩

/-! ### Two servers side by side -/

/-- Two servers that differ, as far as one document is concerned, in ids only. -/
structure Related (subject : Url ⊕ Uri) (spare : String → String) (pairs : Renaming)
    (whole alone : Server) : Prop where
  resolved : alone.resolved = whole.resolved
  memo : ∀ url, subject = .inl url →
    alone.session.memo.entries[url]? = whole.session.memo.entries[url]?
  cache : ∀ url, subject = .inl url →
    alone.session.cache.entries[url]? =
      whole.session.cache.entries[url]?.map (CacheEntry.renamed (pairs.apply spare))
  known : ∀ url entry, subject = .inl url → whole.session.cache.entries[url]? = some entry →
    ∃ id ∈ pairs.map Prod.fst, entry.tokens.resultId = some id
  ordered : pairs.Ordered whole.session.ids.next.toNat
  counter : alone.session.ids.next.toNat = pairs.length
  spared : ∀ held, spare held ∉ pairs.map Prod.snd

theorem applySettings_resolved_congr
    {whole alone : Server}
    (same : alone.resolved = whole.resolved)
    (source : SettingsSource)
    (payload : Json) :
    (alone.applySettings source payload).server.resolved =
      (whole.applySettings source payload).server.resolved := by
  rw [applySettings, applySettings]
  by_cases isNull : payload.isNull = true
  · rw [if_pos isNull, if_pos isNull]
    exact same
  · rw [if_neg isNull, if_neg isNull]
    cases Settings.ofJson payload with
    | ok settings => rfl
    | error reason => exact same

namespace Related

theorem fresh (subject : Url ⊕ Uri) (spare : String → String) :
    Related subject spare [] Server.fresh Server.fresh where
  resolved := rfl
  memo := fun _ _ => rfl
  cache := fun _ _ => by simp [Server.fresh, Session.fresh, Cache.empty]
  known := fun _ _ _ found => by simp [Server.fresh, Session.fresh, Cache.empty] at found
  ordered := Renaming.Ordered.nil
  counter := rfl
  spared := fun _ => List.not_mem_nil

variable {subject : Url ⊕ Uri} {spare : String → String} {pairs : Renaming} {whole alone : Server}
  (related : Related subject spare pairs whole alone)
include related

/-- Servers stay related as long as sessions stay as they are. -/
theorem of_same_session
    {nextWhole nextAlone : Server}
    (resolved : nextAlone.resolved = nextWhole.resolved)
    (sameWhole : nextWhole.session = whole.session)
    (sameAlone : nextAlone.session = alone.session) :
    Related subject spare pairs nextWhole nextAlone where
  resolved := resolved
  memo := by rw [sameWhole, sameAlone]; exact related.memo
  cache := by rw [sameWhole, sameAlone]; exact related.cache
  known := by rw [sameWhole]; exact related.known
  ordered := by rw [sameWhole]; exact related.ordered
  counter := by rw [sameAlone]; exact related.counter
  spared := related.spared

/-- What concerns another document changes nothing for this one but the next id. -/
theorem of_elsewhere
    {next : Server}
    (resolved : next.resolved = whole.resolved)
    (memo : ∀ url, subject = .inl url →
      next.session.memo.entries[url]? = whole.session.memo.entries[url]?)
    (cache : ∀ url, subject = .inl url →
      next.session.cache.entries[url]? = whole.session.cache.entries[url]?)
    (later : whole.session.ids.next.toNat ≤ next.session.ids.next.toNat) :
    Related subject spare pairs next alone where
  resolved := related.resolved.trans resolved.symm
  memo := fun url isUrl => (related.memo url isUrl).trans (memo url isUrl).symm
  cache := fun url isUrl => by rw [cache url isUrl]; exact related.cache url isUrl
  known := fun url entry isUrl found =>
    related.known url entry isUrl (by rwa [cache url isUrl] at found)
  ordered := related.ordered.mono later
  counter := related.counter
  spared := related.spared

/-- The ids that the two servers take next. -/
theorem next_texts :
    IdSource.text whole.session.ids.next = Nat.repr whole.session.ids.next.toNat ∧
      IdSource.text alone.session.ids.next = Nat.repr pairs.length := by
  rw [IdSource.text, IdSource.text, related.counter]
  exact ⟨rfl, rfl⟩

theorem next_notMem : IdSource.text whole.session.ids.next ∉ pairs.map Prod.fst := by
  rw [related.next_texts.1]
  exact related.ordered.repr_notMem

/-- A call of the rule that leads to no array changes the memos alike. -/
theorem settled
    {url : Url}
    (isUrl : subject = .inl url)
    (supplier : Supplier) :
    Related subject spare pairs
      { whole with
        session := { whole.session with memo := (whole.session.memo.tokens supplier url).memo } }
      { alone with
        session := { alone.session with
          memo := (alone.session.memo.tokens supplier url).memo } } := by
  refine ⟨related.resolved, ?_, related.cache, related.known, related.ordered, related.counter,
    related.spared⟩
  intro other isOther
  obtain rfl : url = other := Sum.inl.inj (isUrl.symm.trans isOther)
  exact (Memo.tokens_congr supplier (related.memo url isUrl)).2

/-- After an array was handed over in both runs, the caches hold the same for the document under the
renaming with the new pair of ids. -/
theorem cache_written
    {url : Url}
    (isUrl : subject = .inl url)
    (data : List WireToken)
    (version : Option Int) :
    let next := pairs ++
      [(IdSource.text whole.session.ids.next, IdSource.text alone.session.ids.next)]
    let cache := (whole.session.cache.store url (whole.session.stamped data) version).2
    let other := (alone.session.cache.store url (alone.session.stamped data) version).2
    other.entries[url]? =
        cache.entries[url]?.map (CacheEntry.renamed (Renaming.apply next spare)) ∧
      ∀ entry, cache.entries[url]? = some entry →
        ∃ id ∈ next.map Prod.fst, entry.tokens.resultId = some id := by
  intro next cache other
  obtain ⟨-, ⟨wholeSame, aloneSame⟩ | ⟨wholeNew, aloneNew⟩⟩ :=
    Cache.store_renamed_cases (related.cache url isUrl) (whole.session.stamped data)
      (alone.session.stamped data) version
  · rw [wholeSame, aloneSame, related.cache url isUrl]
    cases found : whole.session.cache.entries[url]? with
    | none => exact ⟨rfl, fun _ isFound => by cases isFound⟩
    | some entry =>
        obtain ⟨id, isKnown, hasId⟩ := related.known url entry isUrl found
        refine ⟨?_, fun held isHeld => ⟨id, ?_, Option.some.inj isHeld ▸ hasId⟩⟩
        · simp only [Option.map_some, CacheEntry.renamed, TokenArray.renamed, hasId, next,
            Renaming.apply_append_of_mem _ spare isKnown]
        · rw [List.map_append]
          exact List.mem_append_left _ isKnown
  · rw [wholeNew, aloneNew]
    refine ⟨?_, fun held isHeld => ⟨IdSource.text whole.session.ids.next, ?_, ?_⟩⟩
    · simp only [Option.map_some, CacheEntry.renamed, TokenArray.renamed, Session.stamped, next,
        Renaming.apply_append_cons [] spare related.next_notMem]
    · rw [List.map_append]
      exact List.mem_append_right _ List.mem_cons_self
    · rw [← Option.some.inj isHeld]
      rfl

/-- An array served for the document in both runs, under the next id of each. -/
theorem written
    {url : Url}
    (isUrl : subject = .inl url)
    (supplier : Supplier)
    (data : List WireToken)
    (version : Option Int)
    (fits : whole.session.ids.next.toNat + 1 < 2 ^ 64)
    (unissued : ∀ held, spare held ≠ IdSource.text alone.session.ids.next) :
    Related subject spare
      (pairs ++ [(IdSource.text whole.session.ids.next, IdSource.text alone.session.ids.next)])
      { whole with
        session := whole.session.advanced
          (whole.session.cache.store url (whole.session.stamped data) version).2
          (whole.session.memo.tokens supplier url).memo }
      { alone with
        session := alone.session.advanced
          (alone.session.cache.store url (alone.session.stamped data) version).2
          (alone.session.memo.tokens supplier url).memo } := by
  have sameUrl {other : Url} (isOther : subject = .inl other) : url = other :=
    Sum.inl.inj (isUrl.symm.trans isOther)
  obtain ⟨sameCache, known⟩ := related.cache_written isUrl data version
  refine ⟨related.resolved, fun other isOther => ?_, fun other isOther => ?_,
    fun other entry isOther found => ?_, ?_, ?_, fun held => ?_⟩
  · obtain rfl := sameUrl isOther
    exact (Memo.tokens_congr supplier (related.memo url isUrl)).2
  · obtain rfl := sameUrl isOther
    exact sameCache
  · obtain rfl := sameUrl isOther
    exact known entry found
  · simp only [Session.advanced, UInt64.toNat_add, UInt64.toNat_one]
    rw [related.next_texts.1, related.next_texts.2, Nat.mod_eq_of_lt fits]
    exact related.ordered.extend
  · have within := related.ordered.within
    simp only [Session.advanced, UInt64.toNat_add, UInt64.toNat_one, List.length_append,
      List.length_singleton, related.counter]
    exact Nat.mod_eq_of_lt (by omega)
  · rw [List.map_append, List.mem_append, not_or]
    exact ⟨related.spared held, fun isLast => unissued held (List.mem_singleton.mp isLast)⟩

/-- The answers that serve these arrays differ in their ids only. -/
theorem answer_written
    {url : Url}
    (isUrl : subject = .inl url)
    (form : RequestForm)
    (data : List WireToken)
    (version : Option Int)
    {final : String → String}
    (finalNext : final (IdSource.text whole.session.ids.next) =
      IdSource.text alone.session.ids.next) :
    (form.renamed (pairs.apply spare)).answer (.ok (.written (alone.session.stamped data)
        (alone.session.cache.store url (alone.session.stamped data) version).1)) =
      (form.answer (.ok (.written (whole.session.stamped data)
        (whole.session.cache.store url (whole.session.stamped data) version).1))).renamed
          final := by
  obtain ⟨sameOutcome, -⟩ := Cache.store_renamed_cases (related.cache url isUrl)
    (whole.session.stamped data) (alone.session.stamped data) version
  have sameArray :
      alone.session.stamped data = (whole.session.stamped data).renamed final := by
    simp only [TokenArray.renamed, Session.stamped, Option.map_some, finalNext]
  rw [sameOutcome, sameArray]
  refine form.answer_renamed (pairs.apply spare) final _ _ fun previous held displaces _ => ?_
  -- What a write displaces was cached, so its id is one of those that are renamed.
  have wasCached : whole.session.cache.get? url = some previous := by
    rcases whole.session.cache.store_cases url (whole.session.stamped data) version with
      ⟨_, _, -, -, storeEq⟩ | ⟨-, storeEq⟩
    · rw [storeEq] at displaces
      cases displaces
    · rw [storeEq] at displaces
      exact StoreOutcome.stored.inj displaces
  obtain ⟨entry, found, rfl⟩ := Option.map_eq_some_iff.mp wasCached
  obtain ⟨id, isKnown, hasId⟩ := related.known url entry isUrl found
  simp only [TokenArray.renamed, hasId, Option.map_some, Option.some.injEq]
  constructor
  · exact related.ordered.apply_inj related.spared isKnown
  · rintro rfl
    rfl

variable [UrlReading]

/-- A message that is taken out changes nothing for the document. -/
theorem removed
    {message : Message}
    {rename : String → String}
    (gone : message.isolated? subject rename = none)
    {rest : List Message}
    (fits : whole.IdsFit (message :: rest)) :
    Related subject spare pairs (whole.react message).server alone := by
  have later := fits.react.2
  have elsewhere {uri : Uri} {url other : Url} (isOther : uri.subject ≠ subject)
      (parsed : UrlReading.parse uri.text = .ok other) (isUrl : subject = .inl url) :
      other ≠ url := by
    rintro rfl
    exact isOther ((Uri.subject_of_ok parsed).trans isUrl.symm)
  cases message with
  | closed uri =>
      have isOther : uri.subject ≠ subject := by
        intro isSubject
        simp [Message.isolated?, isSubject] at gone
      cases parsed : UrlReading.parse uri.text with
      | error reason => rwa [whole.react_closed_invalid parsed]
      | ok other =>
          have closedEq := whole.react_closed parsed
          refine related.of_elsewhere ?_ ?_ ?_ later
          · rw [closedEq]
          · intro url isUrl
            rw [closedEq, Memo.entries_invalidate, if_neg (elsewhere isOther parsed isUrl)]
          · intro url isUrl
            rw [closedEq, Cache.entries_remove, if_neg (elsewhere isOther parsed isUrl)]
  | request form supplier uri =>
      have isOther : uri.subject ≠ subject := by
        intro isSubject
        simp [Message.isolated?, isSubject] at gone
      cases parsed : UrlReading.parse uri.text with
      | error reason => rwa [(whole.react_request_invalid form supplier parsed).2]
      | ok other =>
          have replied := whole.react_request form supplier parsed
          have frame (url : Url) (isUrl : subject = .inl url) :=
            whole.session.serve_entries_of_ne supplier whole.resolved.encoding
              (elsewhere isOther parsed isUrl)
          refine related.of_elsewhere ?_ ?_ ?_ later
          · rw [replied]
          · intro url isUrl
            rw [replied]
            exact (frame url isUrl).1
          · intro url isUrl
            rw [replied]
            exact (frame url isUrl).2
  | start options => cases gone
  | configure payload => cases gone
  | opened uri version => cases gone
  | shutdown => cases gone

/-- A document that is closed in both runs is forgotten in both. -/
theorem closed
    {uri : Uri}
    (isSubject : uri.subject = subject) :
    Related subject spare pairs (whole.react (.closed uri)).server
      (alone.react (.closed uri)).server := by
  cases parsed : UrlReading.parse uri.text with
  | error reason => rwa [whole.react_closed_invalid parsed, alone.react_closed_invalid parsed]
  | ok url =>
      rw [whole.react_closed parsed, alone.react_closed parsed]
      have isUrl {other : Url} (isOther : subject = .inl other) : url = other :=
        Sum.inl.inj ((Uri.subject_of_ok parsed).symm.trans (isSubject.trans isOther))
      refine ⟨related.resolved, ?_, ?_, ?_, related.ordered, related.counter, related.spared⟩
      · intro other isOther
        simp only [Memo.entries_invalidate, if_pos (isUrl isOther)]
      · intro other isOther
        simp only [Cache.entries_remove, if_pos (isUrl isOther), Option.map_none]
      · intro other entry isOther found
        simp only [Cache.entries_remove, if_pos (isUrl isOther)] at found
        cases found

/-- A request for the document comes to the same in both runs. Either neither serves an array, and
the answers are equal, or each serves one under its next id, and the answers differ in that id. -/
theorem request
    {uri : Uri}
    (isSubject : uri.subject = subject)
    (form : RequestForm)
    (supplier : Supplier)
    {rest : List Message}
    (fits : whole.IdsFit (.request form supplier uri :: rest))
    (unissued : ∀ held, (alone.react
      (.request (form.renamed (pairs.apply spare)) supplier uri)).answer.resultId? ≠
        some (spare held)) :
    let reply := whole.react (.request form supplier uri)
    let other := alone.react (.request (form.renamed (pairs.apply spare)) supplier uri)
    reply.answer.Matches pairs other.answer ∧
      Related subject spare (pairs ++ reply.answer.paired other.answer) reply.server
        other.server := by
  intro reply other
  have unpaired (nothing : reply.answer.ServesNothing)
      (next : Related subject spare pairs reply.server other.server) :
      Related subject spare (pairs ++ reply.answer.paired other.answer) reply.server
        other.server := by
    rwa [Answer.paired, nothing.resultId?_eq_none, List.append_nil]
  cases parsed : UrlReading.parse uri.text with
  | error reason =>
      obtain ⟨answerEq, serverEq⟩ := whole.react_request_invalid form supplier parsed
      obtain ⟨otherAnswerEq, otherServerEq⟩ :=
        alone.react_request_invalid (form.renamed (pairs.apply spare)) supplier parsed
      rw [answerEq, otherAnswerEq, serverEq, otherServerEq] at unpaired ⊢
      exact ⟨Answer.Matches.of_unserved form pairs _ (Or.inl rfl),
        unpaired form.servesNothing_of_nothing related⟩
  | ok url =>
      have isUrl : subject = .inl url := isSubject.symm.trans (Uri.subject_of_ok parsed)
      have replied := whole.react_request form supplier parsed
      have otherReplied :=
        alone.react_request (form.renamed (pairs.apply spare)) supplier parsed
      rw [congrArg Resolved.encoding related.resolved] at otherReplied
      have sameOutput := (Memo.tokens_congr supplier (related.memo url isUrl)).1
      rcases Session.serve_alike whole.resolved.encoding sameOutput with
        ⟨outcome, unserved, answerEq, otherAnswerEq, sessionEq, otherSessionEq⟩ |
          ⟨document, data, outputEq, encoded⟩
      · simp only [reply, other, replied, otherReplied, answerEq, otherAnswerEq, sessionEq,
          otherSessionEq] at unpaired ⊢
        exact ⟨Answer.Matches.of_unserved form pairs _ unserved,
          unpaired (unserved.servesNothing form) (related.settled isUrl supplier)⟩
      · have below := fits.of_serves (whole.serves_of_encode_ok form parsed outputEq encoded)
        rw [whole.session.serve_of_encode_ok _ outputEq encoded] at replied
        rw [alone.session.serve_of_encode_ok _ (sameOutput.trans outputEq) encoded]
          at otherReplied
        have hasId : reply.answer.resultId? = some (IdSource.text whole.session.ids.next) := by
          simp only [reply, replied]
          exact form.resultId?_answer_written _ _
        have hasOtherId : other.answer.resultId? =
            some (IdSource.text alone.session.ids.next) := by
          simp only [other, otherReplied]
          exact (form.renamed _).resultId?_answer_written _ _
        refine ⟨Or.inr ⟨_, _, hasId, hasOtherId, related.next_notMem, fun final finalNext => ?_⟩,
          ?_⟩
        · simp only [reply, other, replied, otherReplied]
          exact related.answer_written isUrl form data document.version finalNext
        · have fresh : ∀ held, spare held ≠ IdSource.text alone.session.ids.next := by
            intro held same
            exact unissued held (by rw [same]; exact hasOtherId)
          rw [Answer.paired, hasId, hasOtherId]
          simp only [reply, other, replied, otherReplied]
          exact related.written isUrl supplier data document.version (by omega) fresh

/-- A message that is kept has answers that go together and leaves the servers related. -/
theorem kept
    {message kept : Message}
    (isKept : message.isolated? subject (pairs.apply spare) = some kept)
    {rest : List Message}
    (fits : whole.IdsFit (message :: rest))
    (unissued : ∀ held, (alone.react kept).answer.resultId? ≠ some (spare held)) :
    let reply := whole.react message
    let other := alone.react kept
    Related subject spare (pairs ++ reply.answer.paired other.answer) reply.server other.server ∧
      Exchange.Parallels subject pairs ⟨message, reply⟩ ⟨kept, other⟩ := by
  intro reply other
  have notice (next : Related subject spare pairs reply.server other.server)
      (unasked : Exchange.answerTo? subject ⟨message, reply⟩ = none)
      (otherUnasked : Exchange.answerTo? subject ⟨kept, other⟩ = none)
      (unpaired : reply.answer.paired other.answer = []) :
      Related subject spare (pairs ++ reply.answer.paired other.answer) reply.server
          other.server ∧
        Exchange.Parallels subject pairs ⟨message, reply⟩ ⟨kept, other⟩ :=
    ⟨by rwa [unpaired, List.append_nil], Or.inl ⟨unasked, otherUnasked, unpaired⟩⟩
  cases message with
  | start options =>
      cases isKept
      refine notice (related.of_same_session ?_ ?_ ?_) rfl rfl rfl
      · cases options with
        | none => exact related.resolved
        | some payload =>
            exact applySettings_resolved_congr related.resolved .initialization payload
      · exact start_session whole options
      · exact start_session alone options
  | configure payload =>
      cases isKept
      exact notice (related.of_same_session
        (applySettings_resolved_congr related.resolved .configuration payload)
        (applySettings_session whole .configuration payload)
        (applySettings_session alone .configuration payload)) rfl rfl rfl
  | opened uri version =>
      cases isKept
      exact notice related rfl rfl rfl
  | shutdown =>
      cases isKept
      exact notice related rfl rfl rfl
  | closed uri =>
      obtain ⟨isSubject, isSame⟩ := Option.ite_none_right_eq_some.mp isKept
      obtain rfl := Option.some.inj isSame
      exact notice (related.closed isSubject) rfl rfl rfl
  | request form supplier uri =>
      obtain ⟨isSubject, isSame⟩ := Option.ite_none_right_eq_some.mp isKept
      obtain rfl := Option.some.inj isSame
      obtain ⟨matched, next⟩ := related.request isSubject form supplier fits unissued
      exact ⟨next, Or.inr ⟨if_pos isSubject, if_pos isSubject, matched⟩⟩

end Related

variable [UrlReading]

/-- A message that is taken out is no request for the document. -/
theorem answerTo?_eq_none_of_isolated?_eq_none
    {subject : Url ⊕ Uri}
    {message : Message}
    {rename : String → String}
    (gone : message.isolated? subject rename = none)
    (reply : ServerReply Answer) :
    Exchange.answerTo? subject ⟨message, reply⟩ = none := by
  cases message with
  | request form supplier uri => exact if_neg (by simpa [Message.isolated?] using gone)
  | _ => rfl

section Isolate

variable {subject : Url ⊕ Uri} {spare : String → String} {pairs : Renaming} {whole alone : Server}
  {message : Message}

theorem isolate_cons_of_none
    (gone : message.isolated? subject (pairs.apply spare) = none)
    (rest : List Message) :
    whole.isolate subject spare alone pairs (message :: rest) =
      (whole.react message).server.isolate subject spare alone pairs rest := by
  rw [isolate, gone]

theorem isolate_cons_of_some
    {kept : Message}
    (isKept : message.isolated? subject (pairs.apply spare) = some kept)
    (rest : List Message) :
    whole.isolate subject spare alone pairs (message :: rest) =
      kept :: (whole.react message).server.isolate subject spare (alone.react kept).server
        (pairs ++ (whole.react message).answer.paired (alone.react kept).answer) rest := by
  rw [isolate, isKept]

end Isolate

/-- More messages add to what is left of a run. -/
theorem isolate_append
    (subject : Url ⊕ Uri)
    (spare : String → String)
    (whole alone : Server)
    (pairs : Renaming)
    (first second : List Message) :
    ∃ added, whole.isolate subject spare alone pairs (first ++ second) =
      whole.isolate subject spare alone pairs first ++ added := by
  induction first generalizing whole alone pairs with
  | nil => exact ⟨_, rfl⟩
  | cons message rest inductionHypothesis =>
      rw [List.cons_append]
      cases isolated : message.isolated? subject (pairs.apply spare) with
      | none =>
          rw [isolate_cons_of_none isolated, isolate_cons_of_none isolated]
          exact inductionHypothesis _ alone pairs
      | some kept =>
          rw [isolate_cons_of_some isolated, isolate_cons_of_some isolated]
          obtain ⟨added, continued⟩ := inductionHypothesis (whole.react message).server
            (alone.react kept).server
            (pairs ++ (whole.react message).answer.paired (alone.react kept).answer)
          exact ⟨added, congrArg (kept :: ·) continued⟩

/-- From related servers on, the answers for the document are the same in both runs up to the
renaming that the runs themselves define. This renaming keeps the order of ids, and it is the one
by which the next message is rewritten. -/
theorem isolate_answers
    {subject : Url ⊕ Uri}
    {spare : String → String}
    {pairs : Renaming}
    {whole alone : Server}
    (related : Related subject spare pairs whole alone)
    {messages : List Message}
    (fits : whole.IdsFit messages)
    (unissued : ∀ held, ∀ exchange ∈ alone.trace (whole.isolate subject spare alone pairs messages),
      exchange.reply.answer.resultId? ≠ some (spare held)) :
    let history := whole.trace messages
    let others := alone.trace (whole.isolate subject spare alone pairs messages)
    let known := pairs ++ (resultIdsTo subject history).zip (resultIdsTo subject others)
    answersTo subject others =
        (answersTo subject history).map (Answer.renamed (known.apply spare)) ∧
      (resultIdsTo subject history).length = (resultIdsTo subject others).length ∧
      (∃ bound, known.Ordered bound) ∧
      ∀ last : Message, whole.isolate subject spare alone pairs (messages ++ [last]) =
        whole.isolate subject spare alone pairs messages ++
          (last.isolated? subject (known.apply spare)).toList := by
  induction messages generalizing whole alone pairs with
  | nil =>
      refine ⟨rfl, rfl, ⟨whole.session.ids.next.toNat, ?_⟩, fun last => ?_⟩
      · change Renaming.Ordered (pairs ++ []) _
        rw [List.append_nil]
        exact related.ordered
      · change whole.isolate subject spare alone pairs [last] =
          (last.isolated? subject (Renaming.apply (pairs ++ []) spare)).toList
        rw [List.append_nil, isolate]
        cases last.isolated? subject (pairs.apply spare) <;> rfl
  | cons message rest inductionHypothesis =>
      have nextFits := fits.react.1
      cases isolated : message.isolated? subject (pairs.apply spare) with
      | none =>
          have unasked : answersTo subject (whole.trace (message :: rest)) =
              answersTo subject ((whole.react message).server.trace rest) := by
            rw [trace, answersTo, List.filterMap_cons,
              answerTo?_eq_none_of_isolated?_eq_none isolated]
            rfl
          simp only [List.cons_append, isolate_cons_of_none isolated, resultIdsTo, unasked]
            at unissued ⊢
          exact inductionHypothesis (related.removed isolated fits) nextFits unissued
      | some kept =>
          rw [isolate_cons_of_some isolated, trace] at unissued
          have unissuedNow (held : String) := unissued held _ List.mem_cons_self
          obtain ⟨next, parallel⟩ := related.kept isolated fits unissuedNow
          obtain ⟨othersEq, sameLength, isOrdered, continued⟩ :=
            inductionHypothesis next nextFits fun held exchange later =>
              unissued held exchange (List.mem_cons_of_mem _ later)
          simp only [List.cons_append, isolate_cons_of_some isolated, trace, resultIdsTo, answersTo,
            List.filterMap_cons]
          rcases parallel with ⟨noAnswer, noOther, unpaired⟩ | ⟨hasAnswer, hasOther, matched⟩
          · simp only [noAnswer, noOther]
            simp only [unpaired, List.append_nil] at othersEq sameLength isOrdered continued ⊢
            exact ⟨othersEq, sameLength, isOrdered, fun last => congrArg _ (continued last)⟩
          · simp only [hasAnswer, hasOther]
            rw [matched.zip_resultIds]
            simp only [List.append_assoc] at othersEq isOrdered continued
            refine ⟨?_, matched.length_resultIds sameLength, isOrdered,
              fun last => congrArg _ (continued last)⟩
            rw [List.map_cons]
            exact congrArg₂ List.cons (matched.eq_renamed spare _) othersEq

end Server

/-- Documents do not interfere. What is left of a run without the requests and closes of other
documents is built message by message: a request that holds an id served for the document gets the
id in the same place of what is left, and one that holds any other id gets a spare one. If no spare
id is ever served there, the answers for the document are those of the whole run, up to the ids they
carry, and these are in the same order. -/
theorem documents_do_not_interfere
    [UrlReading]
    (messages : List Message)
    (idsFit : (served (Server.fresh.trace messages)).length < 2 ^ 64)
    (uri : Uri)
    (spare : String → String)
    (spareUnissued : ∀ held,
      ∀ exchange ∈ Server.fresh.trace (isolatedRun uri spare messages),
        exchange.reply.answer.resultId? ≠ some (spare held)) :
    (∀ before message rest, messages = before ++ message :: rest →
        isolatedRun uri spare (before ++ [message]) =
          isolatedRun uri spare before ++
            (message.isolated? uri.subject
              ((isolationPairs uri spare before).apply spare)).toList) ∧
      answersTo uri.subject (Server.fresh.trace (isolatedRun uri spare messages)) =
        (answersTo uri.subject (Server.fresh.trace messages)).map
          (Answer.renamed ((isolationPairs uri spare messages).apply spare)) ∧
      ∃ numbers : List Nat, numbers.Pairwise (· < ·) ∧
        resultIdsTo uri.subject (Server.fresh.trace messages) = numbers.map Nat.repr ∧
        resultIdsTo uri.subject (Server.fresh.trace (isolatedRun uri spare messages)) =
          (List.range numbers.length).map Nat.repr := by
  have related := Server.Related.fresh uri.subject spare
  have fits : Server.fresh.IdsFit messages := by
    rw [Server.IdsFit]
    exact Nat.lt_of_le_of_lt (Nat.le_of_eq (Nat.zero_add _)) idsFit
  refine ⟨?_, ?_⟩
  · rintro before message rest rfl
    have fitsBefore : Server.fresh.IdsFit before := by
      rw [Server.IdsFit, Server.trace_append] at fits
      have longer := length_served_le_append (Server.fresh.trace before)
        ((Server.fresh.after before).trace (message :: rest))
      rw [Server.IdsFit]
      omega
    obtain ⟨added, continued⟩ :=
      Server.isolate_append uri.subject spare Server.fresh Server.fresh [] before (message :: rest)
    rw [isolatedRun, continued, Server.trace_append] at spareUnissued
    exact (Server.isolate_answers related fitsBefore fun held exchange isBefore =>
      spareUnissued held exchange (List.mem_append_left _ isBefore)).2.2.2 message
  · obtain ⟨sameAnswers, sameLength, ⟨bound, ordered⟩, -⟩ :=
      Server.isolate_answers related fits spareUnissued
    obtain ⟨numbers, rising, -, sources⟩ := ordered.sources
    have targets := ordered.targets
    rw [List.nil_append] at sources targets
    rw [List.map_fst_zip (Nat.le_of_eq sameLength)] at sources
    rw [List.map_snd_zip (Nat.le_of_eq sameLength.symm), List.length_zip, ← sameLength,
      Nat.min_self, sources, List.length_map] at targets
    exact ⟨sameAnswers, numbers, rising, sources, targets⟩

/-- Requests for two documents. Those for `a:b` ask for all tokens, for the edits since them, and
for the edits since the array of the other document. -/
def mixedRun : List Message :=
  [.request .full (pairBuild [letterAt 2 "g"] 0) ⟨"a:b?c"⟩,
    askAll,
    .request (.delta "1") (pairBuild [letterAt 0 "f", letterAt 2 "g"] 1) ⟨"a:b"⟩,
    .request (.delta "0") (pairBuild [letterAt 0 "f", letterAt 2 "g"] 1) ⟨"a:b"⟩]

/-- The requests of this run for `a:b` alone, which hold other ids. -/
def unmixedRun : List Message :=
  [askAll, askEdits,
    .request (.delta "-") (pairBuild [letterAt 0 "f", letterAt 2 "g"] 1) ⟨"a:b"⟩]

theorem documents_do_not_interfere_mixed :
    (served (Server.fresh.trace mixedRun)).length < 2 ^ 64 ∧
      isolatedRun ⟨"a:b"⟩ (fun _ => "-") mixedRun = unmixedRun ∧
      (∀ exchange ∈ Server.fresh.trace unmixedRun,
        exchange.reply.answer.resultId? ≠ some "-") ∧
      isolationPairs ⟨"a:b"⟩ (fun _ => "-") mixedRun = [("1", "0"), ("2", "1"), ("3", "2")] ∧
      answersTo (.inl ⟨"a:b"⟩) (Server.fresh.trace unmixedRun) =
        (answersTo (.inl ⟨"a:b"⟩) (Server.fresh.trace mixedRun)).map
          (Answer.renamed (Renaming.apply [("1", "0"), ("2", "1"), ("3", "2")] fun _ => "-")) := by
  have parsed : UrlReading.parse "a:b" = .ok ⟨"a:b"⟩ := rfl
  have otherParsed : UrlReading.parse "a:b?c" = .ok ⟨"a:b?c"⟩ := rfl
  have isDocument : Uri.subject ⟨"a:b"⟩ = .inl ⟨"a:b"⟩ := Uri.subject_of_ok parsed
  have isOther : Uri.subject ⟨"a:b?c"⟩ = .inl ⟨"a:b?c"⟩ := Uri.subject_of_ok otherParsed
  have idsFit : (served (Server.fresh.trace mixedRun)).length < 2 ^ 64 :=
    Nat.lt_of_le_of_lt (List.length_filterMap_le _ _) (by decide)
  have isolated : isolatedRun ⟨"a:b"⟩ (fun _ => "-") mixedRun = unmixedRun := by
    have elsewhere : ¬ (Sum.inl ⟨"a:b?c"⟩ : Url ⊕ Uri) = .inl ⟨"a:b"⟩ := by decide
    rw [isolatedRun, isDocument, mixedRun, unmixedRun, askAll, askEdits]
    simp only [Server.isolate, Message.isolated?, isDocument, isOther, if_neg elsewhere, ↓reduceIte,
      Server.react_request _ _ _ parsed, Server.react_request _ _ _ otherParsed,
      RequestForm.renamed, List.cons.injEq, Message.request.injEq, RequestForm.delta.injEq,
      true_and, and_true]
    decide +kernel
  have unissued : ∀ exchange ∈ Server.fresh.trace unmixedRun,
      exchange.reply.answer.resultId? ≠ some "-" := by
    have checked : ((Server.fresh.trace unmixedRun).all
        fun exchange => exchange.reply.answer.resultId? != some "-") = true := by
      rw [unmixedRun, askAll, askEdits]
      simp only [Server.trace, Server.react_request _ _ _ parsed]
      decide +kernel
    intro exchange member
    exact bne_iff_ne.mp (List.all_eq_true.mp checked exchange member)
  have paired :
      isolationPairs ⟨"a:b"⟩ (fun _ => "-") mixedRun = [("1", "0"), ("2", "1"), ("3", "2")] := by
    rw [isolationPairs, isolated, isDocument, mixedRun, unmixedRun, askAll, askEdits]
    simp only [resultIdsTo, answersTo, Server.trace, Server.react_request _ _ _ parsed,
      Server.react_request _ _ _ otherParsed, List.filterMap, Exchange.answerTo?, isDocument,
      isOther]
    decide +kernel
  obtain ⟨-, sameAnswers, -⟩ := documents_do_not_interfere mixedRun idsFit ⟨"a:b"⟩ (fun _ => "-")
    (by rw [isolated]; exact fun _ => unissued)
  rw [isolated, paired, isDocument] at sameAnswers
  exact ⟨idsFit, isolated, unissued, paired, sameAnswers⟩

end Highlight
