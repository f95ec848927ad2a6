import Highlight.Proofs.Token.Encode

/-!
Contract: everything that a request for tokens can come to.

Owns: the look-ups of the cache after each of its operations, the two outcomes
of a write, and the four outcomes of serving a document. Later results about
requests go through these and do not open the definitions again.
-/

set_option autoImplicit false

namespace Highlight

/-- A version that is known and older than one that is known too. -/
def IsOlder (incoming held : Option Int) : Prop :=
  ∃ older newer, incoming = some older ∧ held = some newer ∧ older < newer

theorem newerVersion?_eq_some_iff (held incoming : Option Int) (newer : Int) :
    newerVersion? held incoming = some newer ↔ held = some newer ∧ IsOlder incoming held := by
  match held, incoming with
  | none, _ => simp [newerVersion?, IsOlder]
  | some _, none => simp [newerVersion?, IsOlder]
  | some _, some _ => simp [newerVersion?, IsOlder, and_comm]

theorem newerVersion?_eq_none_iff (held incoming : Option Int) :
    newerVersion? held incoming = none ↔ ¬ IsOlder incoming held := by
  match held, incoming with
  | none, _ => simp [newerVersion?, IsOlder]
  | some _, none => simp [newerVersion?, IsOlder]
  | some _, some _ => simp [newerVersion?, IsOlder]

namespace Cache

def put (cache : Cache) (url : Url) (entry : CacheEntry) : Cache where
  entries := cache.entries.insert url entry

@[simp] theorem get?_empty (url : Url) : empty.get? url = none := by
  simp [get?, empty]

theorem entries_put (cache : Cache) (url other : Url) (entry : CacheEntry) :
    (cache.put url entry).entries[other]? =
      if url = other then some entry else cache.entries[other]? := by
  rw [put, Std.ExtTreeMap.getElem?_insert]
  simp only [Std.LawfulEqCmp.compare_eq_iff_eq]

theorem entries_remove (cache : Cache) (url other : Url) :
    (cache.remove url).entries[other]? = if url = other then none else cache.entries[other]? := by
  rw [remove, Std.ExtTreeMap.getElem?_erase]
  simp only [Std.LawfulEqCmp.compare_eq_iff_eq]

theorem get?_put (cache : Cache) (url other : Url) (entry : CacheEntry) :
    (cache.put url entry).get? other =
      if url = other then some entry.tokens else cache.get? other := by
  rw [get?, entries_put]
  split <;> rfl

theorem get?_remove (cache : Cache) (url other : Url) :
    (cache.remove url).get? other = if url = other then none else cache.get? other := by
  rw [get?, entries_remove]
  split <;> rfl

/-- A write finds a newer version and changes nothing, or it takes the place of what the document
had and hands that back. -/
theorem store_cases (cache : Cache) (url : Url) (tokens : TokenArray) (version : Option Int) :
    (∃ held newer, cache.entries[url]? = some held ∧
        (held.version = some newer ∧ IsOlder version held.version) ∧
        cache.store url tokens version = (.superseded newer, cache)) ∨
      ((∀ held, cache.entries[url]? = some held → ¬ IsOlder version held.version) ∧
        cache.store url tokens version =
          (.stored (cache.get? url), cache.put url ⟨tokens, version⟩)) := by
  cases heldEq : cache.entries[url]? with
  | none =>
      refine Or.inr ⟨(by simp), ?_⟩
      rw [store, get?, heldEq]
      rfl
  | some held =>
      cases newerEq : newerVersion? held.version version with
      | some newer =>
          refine Or.inl ⟨held, newer, rfl, (newerVersion?_eq_some_iff _ _ _).mp newerEq, ?_⟩
          rw [store, heldEq]
          simp only [newerEq]
      | none =>
          refine Or.inr ⟨fun other isHeld => ?_, ?_⟩
          · rw [← Option.some.inj isHeld]
            exact (newerVersion?_eq_none_iff _ _).mp newerEq
          · rw [store, get?, heldEq]
            simp only [newerEq]
            rfl

/-- A write does not reach other documents. -/
theorem entries_store_of_ne
    (cache : Cache)
    {url other : Url}
    (different : url ≠ other)
    (tokens : TokenArray)
    (version : Option Int) :
    (cache.store url tokens version).2.entries[other]? = cache.entries[other]? := by
  rcases cache.store_cases url tokens version with ⟨held, newer, -, -, storeEq⟩ | ⟨-, storeEq⟩
  · rw [storeEq]
  · rw [storeEq, entries_put, if_neg different]

/-- A write that is older than what it finds changes nothing. -/
theorem store_of_isOlder
    {cache : Cache}
    {url : Url}
    {held : CacheEntry}
    {version : Option Int}
    (isHeld : cache.entries[url]? = some held)
    (older : IsOlder version held.version)
    (tokens : TokenArray) :
    (cache.store url tokens version).2 = cache := by
  rcases cache.store_cases url tokens version with ⟨other, newer, -, -, storeEq⟩ | ⟨current, -⟩
  · rw [storeEq]
  · exact absurd older (current held isHeld)

/-- A write that is not older than what it finds takes its place. -/
theorem get?_store_of_not_isOlder
    {cache : Cache}
    {url : Url}
    {held : CacheEntry}
    {version : Option Int}
    (isHeld : cache.entries[url]? = some held)
    (current : ¬ IsOlder version held.version)
    (tokens : TokenArray) :
    (cache.store url tokens version).2.get? url = some tokens := by
  rcases cache.store_cases url tokens version with
    ⟨other, newer, isOther, ⟨-, older⟩, -⟩ | ⟨-, storeEq⟩
  · rw [Option.some.inj (isHeld.symm.trans isOther)] at current
    exact absurd older current
  · rw [storeEq, get?_put, if_pos rfl]

/-- After a write the cache holds what was written, and otherwise what it held before. -/
theorem get?_store_cases
    {cache : Cache}
    {url other : Url}
    {tokens held : TokenArray}
    {version : Option Int}
    (found : (cache.store url tokens version).2.get? other = some held) :
    (url = other ∧ tokens = held) ∨ cache.get? other = some held := by
  rcases cache.store_cases url tokens version with ⟨entry, newer, -, -, storeEq⟩ | ⟨-, storeEq⟩
  · rw [storeEq] at found
    exact Or.inr found
  · rw [storeEq, get?_put] at found
    by_cases same : url = other
    · rw [if_pos same] at found
      exact Or.inl ⟨same, Option.some.inj found⟩
    · rw [if_neg same] at found
      exact Or.inr found

end Cache

namespace Session

/-- Edits are made against the array held, if that has the id of the request and a version that the
new array is not older than. In every other case the answer is the new array. -/
theorem deltaAnswer_store_cases
    (held : String)
    (cache : Cache)
    (url : Url)
    (tokens : TokenArray)
    (version : Option Int) :
    let served := Served.written tokens (cache.store url tokens version).1
    (∃ entry, cache.entries[url]? = some entry ∧ entry.tokens.resultId = some held ∧
        ¬ IsOlder version entry.version ∧
        deltaAnswer held served = .delta (entry.tokens.delta tokens)) ∨
      ((∀ entry, cache.entries[url]? = some entry → entry.tokens.resultId = some held →
          IsOlder version entry.version) ∧
        deltaAnswer held served = .full tokens) := by
  intro served
  rcases cache.store_cases url tokens version with
    ⟨entry, newer, isHeld, ⟨-, older⟩, storeEq⟩ | ⟨current, storeEq⟩
  · refine Or.inr ⟨fun other isOther _ => ?_, ?_⟩
    · rwa [← Option.some.inj (isHeld.symm.trans isOther)]
    · simp only [served, storeEq, deltaAnswer]
  · cases isHeld : cache.entries[url]? with
    | none =>
        refine Or.inr ⟨(by simp), ?_⟩
        simp only [served, storeEq, Cache.get?, isHeld, Option.map_none, deltaAnswer]
    | some entry =>
        have answerEq :
            deltaAnswer held served = entry.tokens.deltaOrFull tokens held := by
          simp only [served, storeEq, Cache.get?, isHeld, Option.map_some, deltaAnswer]
        rw [answerEq, TokenArray.deltaOrFull]
        by_cases sameId : entry.tokens.resultId = some held
        · rw [if_pos sameId]
          exact Or.inl ⟨entry, rfl, sameId, current entry isHeld, rfl⟩
        · rw [if_neg sameId]
          refine Or.inr ⟨fun other isOther otherId => ?_, rfl⟩
          rw [← Option.some.inj isOther] at otherId
          exact absurd otherId sameId

def stamped (session : Session) (data : List WireToken) : TokenArray where
  resultId := some (IdSource.text session.ids.next)
  data := data

/-- The session after a document was served: the cache as given, one id taken, the memo as
given. -/
def advanced (session : Session) (cache : Cache) (memo : Memo) : Session where
  cache := cache
  ids := ⟨session.ids.next + 1⟩
  memo := memo

theorem write_of_encode_ok
    (session : Session)
    (encoding : Encoding)
    (url : Url)
    {document : DocumentTokens}
    {data : List WireToken}
    (encoded : encoding.encode document.tokens = .ok data) :
    session.write encoding url document =
      let stored := session.cache.store url (session.stamped data) document.version
      ⟨.ok (.written (session.stamped data) stored.1), stored.1.report url document.version,
        session.advanced stored.2 session.memo⟩ := by
  rw [write, Encoding.stamp, encoded]
  rfl

section Serve

variable (session : Session) {supplier : Supplier} (encoding : Encoding) {url : Url}

theorem serve_of_recoverable
    {failure : Failure}
    (outputEq : (session.memo.tokens supplier url).output = .error failure)
    (recoverable : failure.isRecoverable = true) :
    session.serve supplier encoding url =
      ⟨.ok .nothing, (session.memo.tokens supplier url).events,
        { session with memo := (session.memo.tokens supplier url).memo }⟩ := by
  rw [serve]
  simp only [outputEq, recoverable, ↓reduceIte]

theorem serve_of_unrecoverable
    {failure : Failure}
    (outputEq : (session.memo.tokens supplier url).output = .error failure)
    (unrecoverable : failure.isRecoverable = false) :
    session.serve supplier encoding url =
      ⟨.error failure, (session.memo.tokens supplier url).events,
        { session with memo := (session.memo.tokens supplier url).memo }⟩ := by
  rw [serve]
  simp only [outputEq, unrecoverable, Bool.false_eq_true, ↓reduceIte]

theorem serve_of_encode_error
    {document : DocumentTokens}
    {fault : OutOfOrder}
    (outputEq : (session.memo.tokens supplier url).output = .ok document)
    (failed : encoding.encode document.tokens = .error fault) :
    session.serve supplier encoding url =
      ⟨.error (.internal (.outOfOrder fault)),
        (session.memo.tokens supplier url).events ++ [],
        { session with memo := (session.memo.tokens supplier url).memo }⟩ := by
  rw [serve]
  simp only [outputEq, write_of_encode_error _ encoding url failed]

theorem serve_of_encode_ok
    {document : DocumentTokens}
    {data : List WireToken}
    (outputEq : (session.memo.tokens supplier url).output = .ok document)
    (encoded : encoding.encode document.tokens = .ok data) :
    session.serve supplier encoding url =
      let stored := session.cache.store url (session.stamped data) document.version
      ⟨.ok (.written (session.stamped data) stored.1),
        (session.memo.tokens supplier url).events ++ stored.1.report url document.version,
        session.advanced stored.2 (session.memo.tokens supplier url).memo⟩ := by
  rw [serve]
  simp only [outputEq, write_of_encode_ok _ encoding url encoded]
  rfl

end Serve

/-- What serving a document can come to: a recoverable failure and an empty answer, a failure of
the rule, a failure of the encoder, or an array under the next id that was handed to the cache. -/
theorem serve_cases
    (session : Session)
    (supplier : Supplier)
    (encoding : Encoding)
    (url : Url) :
    let step := session.memo.tokens supplier url
    let settled := { session with memo := step.memo }
    (∃ failure, step.output = .error failure ∧ failure.isRecoverable = true ∧
        session.serve supplier encoding url = ⟨.ok .nothing, step.events, settled⟩) ∨
      (∃ failure, step.output = .error failure ∧ failure.isRecoverable = false ∧
        session.serve supplier encoding url = ⟨.error failure, step.events, settled⟩) ∨
      (∃ document fault, step.output = .ok document ∧
        encoding.encode document.tokens = .error fault ∧
        session.serve supplier encoding url =
          ⟨.error (.internal (.outOfOrder fault)), step.events ++ [], settled⟩) ∨
      (∃ document data, step.output = .ok document ∧
        encoding.encode document.tokens = .ok data ∧
        session.serve supplier encoding url =
          let stored := session.cache.store url (session.stamped data) document.version
          ⟨.ok (.written (session.stamped data) stored.1),
            step.events ++ stored.1.report url document.version,
            session.advanced stored.2 step.memo⟩) := by
  intro step settled
  cases outputEq : step.output with
  | error failure =>
      cases recoverable : failure.isRecoverable with
      | true =>
          exact Or.inl ⟨failure, rfl, recoverable,
            session.serve_of_recoverable encoding outputEq recoverable⟩
      | false =>
          exact Or.inr (Or.inl ⟨failure, rfl, recoverable,
            session.serve_of_unrecoverable encoding outputEq recoverable⟩)
  | ok document =>
      cases encoded : encoding.encode document.tokens with
      | error fault =>
          exact Or.inr (Or.inr (Or.inl ⟨document, fault, rfl, encoded,
            session.serve_of_encode_error encoding outputEq encoded⟩))
      | ok data =>
          exact Or.inr (Or.inr (Or.inr ⟨document, data, rfl, encoded,
            session.serve_of_encode_ok encoding outputEq encoded⟩))

/-- Whatever serving comes to, the memo is the one that the computation left. -/
theorem serve_memo
    (session : Session)
    (supplier : Supplier)
    (encoding : Encoding)
    (url : Url) :
    (session.serve supplier encoding url).session.memo =
      (session.memo.tokens supplier url).memo := by
  rcases session.serve_cases supplier encoding url with
    ⟨_, -, -, served⟩ | ⟨_, -, -, served⟩ | ⟨_, _, -, -, served⟩ | ⟨_, _, -, -, served⟩
  · rw [served]
  · rw [served]
  · rw [served]
  · rw [served]
    rfl

end Session

end Highlight
