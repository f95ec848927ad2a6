import Highlight.Proofs.Service.Client
import Mathlib.Data.List.Nodup

/-!
Contract: a request for tokens is one step of the session, whatever its form.

Owns: the agreement of the two forms of a request, which leave the same server
and differ only in how the array is sent, and the steps and runs of a session,
in which each request comes with a supplier and an encoding of its own. A
request that fails, or that has nothing to serve, leaves cache and ids alone;
any other takes one id and reaches no other document.

Runs of a session are more than those of a server: encodings need not come from
settings, and cache and memo may forget a document apart from each other.
-/

set_option autoImplicit false

namespace Highlight

/-! ### The two forms of a request -/

/-- What was served reaches both forms of a request: as a failure, as a whole array, or as an array
and its edits against the one that was cached before. -/
theorem Session.serve_answers_agree
    (session : Session)
    (supplier : Supplier)
    (encoding : Encoding)
    (url : Url)
    (held : String) :
    let served := (session.serve supplier encoding url).answer
    (∃ failure, served = .error failure) ∨
      (∃ tokens, served.map fullAnswer = .ok tokens ∧
        served.map (deltaAnswer held) = .ok (.full tokens)) ∨
      ∃ cached tokens, session.cache.get? url = some cached ∧
        served.map fullAnswer = .ok tokens ∧
        served.map (deltaAnswer held) = .ok (.delta (cached.delta tokens)) := by
  intro served
  rcases session.serve_cases supplier encoding url with
    ⟨_, -, -, servedEq⟩ | ⟨failure, -, -, servedEq⟩ | ⟨_, fault, -, -, servedEq⟩ |
      ⟨document, data, -, -, servedEq⟩
  · simp only [served, servedEq]
    exact Or.inr (Or.inl ⟨TokenArray.empty, rfl, rfl⟩)
  · simp only [served, servedEq]
    exact Or.inl ⟨failure, rfl⟩
  · simp only [served, servedEq]
    exact Or.inl ⟨_, rfl⟩
  · simp only [served, servedEq]
    rcases deltaAnswer_store_cases held session.cache url (session.stamped data)
        document.version with ⟨entry, isHeld, -, -, isDelta⟩ | ⟨-, isFull⟩
    · exact Or.inr (Or.inr ⟨entry.tokens, session.stamped data,
        congrArg (Option.map CacheEntry.tokens) isHeld, rfl, congrArg Except.ok isDelta⟩)
    · exact Or.inr (Or.inl ⟨session.stamped data, rfl, congrArg Except.ok isFull⟩)

/-- Asked for all tokens or for edits, a server in a given state does the same: it is left in the
same state, and fails for the same reason or not at all. An array that the request for edits is
answered with is the one that all tokens would be, and edits carry its id and make the array that
was cached for the document into it. -/
theorem delta_agrees_with_full
    [UrlReading]
    (server : Server)
    (supplier : Supplier)
    (uri : Uri)
    (held : String)
    (fits : ∀ url cached, UrlReading.parse uri.text = .ok url →
      server.session.cache.get? url = some cached →
      WireToken.width * cached.data.length < 2 ^ 32) :
    let full := server.full supplier uri
    let delta := server.delta supplier uri held
    delta.server = full.server ∧
      (∀ failure, delta.answer = .error failure ↔ full.answer = .error failure) ∧
      (∀ tokens, delta.answer = .ok (.full tokens) → full.answer = .ok tokens) ∧
      ∀ edits, delta.answer = .ok (.delta edits) →
        ∃ url cached tokens, UrlReading.parse uri.text = .ok url ∧
          server.session.cache.get? url = some cached ∧ full.answer = .ok tokens ∧
          edits.resultId = tokens.resultId ∧
          TokenEdit.applyAll edits.edits cached.data = tokens.data := by
  intro full delta
  cases parsed : UrlReading.parse uri.text with
  | error reason =>
      simp only [full, delta, Server.full, Server.delta, parsed]
      refine ⟨trivial, by simp, fun tokens isEmpty => ?_, by simp⟩
      cases isEmpty
      rfl
  | ok url =>
      simp only [full, delta, Server.full, Server.delta, parsed, Session.full, Session.delta,
        true_and]
      rcases server.session.serve_answers_agree supplier server.resolved.encoding url held with
        ⟨failure, failed⟩ | ⟨tokens, isFull, isWhole⟩ | ⟨cached, tokens, isHeld, isFull, isDelta⟩
      · simp only [failed, Except.map, Except.error.injEq]
        exact ⟨fun _ => trivial, by simp, by simp⟩
      · rw [isFull, isWhole]
        refine ⟨by simp, fun array isArray => ?_, by simp⟩
        cases isArray
        rfl
      · rw [isFull, isDelta]
        refine ⟨by simp, by simp, fun edits isEdits => ?_⟩
        cases isEdits
        exact ⟨url, cached, tokens, rfl, isHeld, rfl, TokenArray.delta_resultId cached tokens,
          TokenArray.applyAll_delta cached tokens (fits url cached parsed isHeld)⟩

/-- The edits that add the second name, asked for from a server that has served the first. -/
theorem delta_agrees_with_full_second_name :
    (Server.fresh.after [askAll]).CacheFits ∧
      ((Server.fresh.after [askAll]).delta (pairBuild [letterAt 0 "f", letterAt 2 "g"] 1)
        ⟨"a:b"⟩ "0").answer = .ok (.delta secondName) ∧
      ∃ url cached tokens, (Server.fresh.after [askAll]).session.cache.get? url = some cached ∧
        ((Server.fresh.after [askAll]).full (pairBuild [letterAt 0 "f", letterAt 2 "g"] 1)
          ⟨"a:b"⟩).answer = .ok tokens ∧
        TokenEdit.applyAll secondName.edits cached.data = tokens.data := by
  have parsed : UrlReading.parse "a:b" = .ok ⟨"a:b"⟩ := rfl
  have afterFirst :
      Server.fresh.after [askAll] = (Server.fresh.react askAll).server := rfl
  have fits : (Server.fresh.after [askAll]).CacheFits := by
    rw [← Server.cacheFits_iff, afterFirst, askAll, Server.react_request _ _ _ parsed]
    decide +kernel
  have answered :
      ((Server.fresh.after [askAll]).delta (pairBuild [letterAt 0 "f", letterAt 2 "g"] 1)
        ⟨"a:b"⟩ "0").answer = .ok (.delta secondName) := by
    rw [afterFirst, askAll, Server.react_request _ _ _ parsed, Server.delta]
    simp only [parsed]
    decide +kernel
  obtain ⟨-, -, -, agrees⟩ := delta_agrees_with_full (Server.fresh.after [askAll])
    (pairBuild [letterAt 0 "f", letterAt 2 "g"] 1) ⟨"a:b"⟩ "0"
    fun url cached _ isHeld => fits url cached isHeld
  obtain ⟨url, cached, tokens, -, isHeld, isFull, -, applied⟩ := agrees secondName answered
  exact ⟨fits, answered, url, cached, tokens, isHeld, isFull, applied⟩

/-! ### Steps and runs of a session -/

/-- What is done with a session: a request with the supplier and the encoding of its moment, or a
document forgotten by the cache or by the memo. -/
inductive SessionStep where
  | request (form : RequestForm) (supplier : Supplier) (encoding : Encoding) (url : Url)
  | remove (url : Url)
  | invalidate (url : Url)

namespace RequestForm

def whole (tokens : TokenArray) : RequestForm → Answer
  | .full => .full (.ok tokens)
  | .delta _ => .delta (.ok (.full tokens))

def failed (failure : Failure) : RequestForm → Answer
  | .full => .full (.error failure)
  | .delta _ => .delta (.error failure)

theorem answer_nothing (form : RequestForm) :
    form.answer (.ok .nothing) = form.whole TokenArray.empty := by
  cases form <;> rfl

theorem answer_error (form : RequestForm) (failure : Failure) :
    form.answer (.error failure) = form.failed failure := by
  cases form <;> rfl

theorem resultId?_whole (form : RequestForm) (tokens : TokenArray) :
    (form.whole tokens).resultId? = tokens.resultId := by
  cases form <;> rfl

theorem resultId?_failed (form : RequestForm) (failure : Failure) :
    (form.failed failure).resultId? = none := by
  cases form <;> rfl

end RequestForm

namespace Session

def perform (session : Session) : SessionStep → Answer × Session
  | .request .full supplier encoding url =>
      let reply := session.full supplier encoding url
      (.full reply.answer, reply.session)
  | .request (.delta held) supplier encoding url =>
      let reply := session.delta supplier encoding url held
      (.delta reply.answer, reply.session)
  | .remove url => (.noted, { session with cache := session.cache.remove url })
  | .invalidate url => (.noted, { session with memo := session.memo.invalidate url })

/-- The step is a request for tokens that the rule has and the encoder takes. -/
def succeeds (session : Session) : SessionStep → Bool
  | .request _ supplier encoding url =>
      match (session.memo.tokens supplier url).output with
      | .ok document => (encoding.encode document.tokens).isOk
      | .error _ => false
  | _ => false

def answers (session : Session) : List SessionStep → List Answer
  | [] => []
  | step :: rest => (session.perform step).1 :: (session.perform step).2.answers rest

def successes (session : Session) : List SessionStep → List Answer
  | [] => []
  | step :: rest =>
      if session.succeeds step then
        (session.perform step).1 :: (session.perform step).2.successes rest
      else (session.perform step).2.successes rest

/-- Both forms of a request leave the session that serving leaves. -/
theorem perform_request
    (session : Session)
    (form : RequestForm)
    (supplier : Supplier)
    (encoding : Encoding)
    (url : Url) :
    session.perform (.request form supplier encoding url) =
      (form.answer (session.serve supplier encoding url).answer,
        (session.serve supplier encoding url).session) := by
  cases form <;> rfl

/-- A step that is no successful request serves no id and takes none; a successful request serves
the id that it takes. -/
theorem perform_cases (session : Session) (step : SessionStep) :
    (session.succeeds step = false ∧ (session.perform step).1.resultId? = none ∧
        (session.perform step).2.ids = session.ids) ∨
      (session.succeeds step = true ∧
        (session.perform step).1.resultId? = some session.ids.issue.1 ∧
        (session.perform step).2.ids = session.ids.issue.2) := by
  cases step with
  | remove url => exact Or.inl ⟨rfl, rfl, rfl⟩
  | invalidate url => exact Or.inl ⟨rfl, rfl, rfl⟩
  | request form supplier encoding url =>
      simp only [perform_request, succeeds]
      rcases session.serve_cases supplier encoding url with
        ⟨failure, outputEq, -, servedEq⟩ | ⟨failure, outputEq, -, servedEq⟩ |
          ⟨document, fault, outputEq, refused, servedEq⟩ |
          ⟨document, data, outputEq, encoded, servedEq⟩
      · simp only [outputEq, servedEq, form.answer_nothing]
        exact Or.inl ⟨trivial, form.resultId?_whole TokenArray.empty, trivial⟩
      · simp only [outputEq, servedEq, form.answer_error]
        exact Or.inl ⟨trivial, form.resultId?_failed failure, trivial⟩
      · simp only [outputEq, refused, servedEq, form.answer_error]
        exact Or.inl ⟨rfl, form.resultId?_failed _, trivial⟩
      · simp only [outputEq, encoded, servedEq]
        exact Or.inr ⟨rfl, form.resultId?_answer_written _ _, rfl⟩

/-- Along a run, the ids served are the numerals from the counter on, one for each success. -/
theorem resultIds_answers
    (session : Session)
    (steps : List SessionStep)
    (fits : session.ids.next.toNat + (session.successes steps).length < 2 ^ 64) :
    (session.answers steps).filterMap Answer.resultId? =
        (List.range' session.ids.next.toNat (session.successes steps).length).map Nat.repr ∧
      (session.successes steps).map Answer.resultId? =
        (List.range' session.ids.next.toNat (session.successes steps).length).map
          (some ∘ Nat.repr) := by
  induction steps generalizing session with
  | nil => exact ⟨rfl, rfl⟩
  | cons step rest inductionHypothesis =>
      rw [successes] at fits ⊢
      rw [answers, List.filterMap_cons]
      rcases session.perform_cases step with
        ⟨fails, noId, sameIds⟩ | ⟨succeeded, servesId, takesId⟩
      · simp only [fails, Bool.false_eq_true, ↓reduceIte, noId] at fits ⊢
        rw [← sameIds] at fits ⊢
        exact inductionHypothesis _ fits
      · simp only [succeeded, ↓reduceIte, servesId, List.length_cons, List.map_cons] at fits ⊢
        -- The bound covers this success too, so the counter does not come round here.
        have advanced : (session.perform step).2.ids.next.toNat = session.ids.next.toNat + 1 := by
          rw [takesId, IdSource.issue, UInt64.toNat_add]
          exact Nat.mod_eq_of_lt (by simp only [UInt64.toNat_one]; omega)
        obtain ⟨allIds, successIds⟩ := inductionHypothesis (session.perform step).2 (by omega)
        rw [allIds, successIds, advanced, List.range'_succ, List.map_cons, List.map_cons]
        exact ⟨rfl, rfl⟩

end Session

/-- A request whose rule has a recoverable failure is answered with the empty array without an id,
and one whose rule or encoder fails otherwise with that failure; cache and ids stay as they were.
Every other request takes one id and serves it, and changes the cache at its own document only, and
not at all if an array of a newer version is held. So along every run the ids served are the
numerals from zero on, in the order of the requests that succeed. -/
theorem requests_atomic_and_ids_consecutive :
    (∀ (session : Session) (form : RequestForm) (supplier : Supplier) (encoding : Encoding)
        (url : Url),
      let output := (session.memo.tokens supplier url).output
      let answer := (session.perform (.request form supplier encoding url)).1
      let next := (session.perform (.request form supplier encoding url)).2
      (∀ failure, output = .error failure → failure.isRecoverable = true →
        answer = form.whole ⟨none, []⟩ ∧ next.cache = session.cache ∧ next.ids = session.ids) ∧
      (∀ fault, output = .error (.internal fault) →
        answer = form.failed (.internal fault) ∧ next.cache = session.cache ∧
          next.ids = session.ids) ∧
      (∀ document fault, output = .ok document →
        encoding.encode document.tokens = .error fault →
        answer = form.failed (.internal (.outOfOrder fault)) ∧ next.cache = session.cache ∧
          next.ids = session.ids) ∧
      ∀ document data, output = .ok document → encoding.encode document.tokens = .ok data →
        answer.resultId? = some session.ids.issue.1 ∧ next.ids = session.ids.issue.2 ∧
          (∀ other, url ≠ other → next.cache.entries[other]? = session.cache.entries[other]?) ∧
          ∀ held, session.cache.entries[url]? = some held →
            IsOlder document.version held.version → next.cache = session.cache) ∧
      ∀ steps : List SessionStep, (Session.fresh.successes steps).length < 2 ^ 64 →
        (∀ (k : Nat) (answer : Answer), (Session.fresh.successes steps)[k]? = some answer →
          answer.resultId? = some (Nat.repr k)) ∧
        (Session.fresh.answers steps).filterMap Answer.resultId? =
          (List.range (Session.fresh.successes steps).length).map Nat.repr ∧
        ((Session.fresh.answers steps).filterMap Answer.resultId?).Nodup := by
  refine ⟨fun session form supplier encoding url => ⟨?_, ?_, ?_, ?_⟩, fun steps fits => ?_⟩
  · intro failure outputEq recoverable
    rw [session.perform_request, session.serve_of_recoverable encoding outputEq recoverable,
      form.answer_nothing]
    exact ⟨rfl, rfl, rfl⟩
  · intro fault outputEq
    rw [session.perform_request, session.serve_of_unrecoverable encoding outputEq rfl,
      form.answer_error]
    exact ⟨rfl, rfl, rfl⟩
  · intro document fault outputEq refused
    rw [session.perform_request, session.serve_of_encode_error encoding outputEq refused,
      form.answer_error]
    exact ⟨rfl, rfl, rfl⟩
  · intro document data outputEq encoded
    rw [session.perform_request, session.serve_of_encode_ok encoding outputEq encoded]
    refine ⟨form.resultId?_answer_written _ _, rfl, fun other different => ?_,
      fun held isHeld older => ?_⟩
    · exact session.cache.entries_store_of_ne different _ _
    · exact Cache.store_of_isOlder isHeld older _
  · have zero : Session.fresh.ids.next.toNat = 0 := rfl
    obtain ⟨allIds, successIds⟩ := Session.fresh.resultIds_answers steps (by omega)
    rw [zero, ← List.range_eq_range'] at allIds successIds
    refine ⟨fun k answer found => ?_, allIds, ?_⟩
    · have ids := congrArg (·[k]?) successIds
      obtain ⟨inside, rfl⟩ := List.getElem?_eq_some_iff.mp found
      simpa [inside] using ids
    · rw [allIds]
      exact List.nodup_range.map fun _ _ same => Nat.repr_injective same

def brokenBuild : Supplier :=
  { pairBuild [] 0 with tree := fun _ => .broken "task panicked" }

def namelessBuild : Supplier :=
  { pairBuild [] 0 with names := fun _ => .absent }

/-- Requests that fail, that have nothing to serve and that succeed, in both forms, with the cache
emptied in between. -/
def mixedSteps : List SessionStep :=
  [.request .full brokenBuild .default ⟨"a:b"⟩,
    .request .full (pairBuild [letterAt 0 "f"] 0) .default ⟨"a:b"⟩,
    .request (.delta "0") namelessBuild .default ⟨"a:b"⟩,
    .remove ⟨"a:b"⟩,
    .request (.delta "0") (pairBuild [letterAt 0 "f", letterAt 2 "g"] 1) .default ⟨"a:b"⟩]

theorem requests_atomic_and_ids_consecutive_mixed :
    (Session.fresh.perform (.request (.delta "0") namelessBuild .default ⟨"a:b"⟩)).1 =
        (RequestForm.delta "0").whole ⟨none, []⟩ ∧
      (Session.fresh.successes mixedSteps).length = 2 ∧
      ∃ answer, (Session.fresh.successes mixedSteps)[1]? = some answer ∧
        answer.resultId? = some "1" := by
  obtain ⟨atomic, numbered⟩ := requests_atomic_and_ids_consecutive
  have two : (Session.fresh.successes mixedSteps).length = 2 := by decide +kernel
  obtain ⟨recoverable, -⟩ := atomic Session.fresh (.delta "0") namelessBuild .default ⟨"a:b"⟩
  obtain ⟨ids, -, -⟩ := numbered mixedSteps (by rw [two]; decide)
  have second := List.getElem?_eq_getElem (show 1 < (Session.fresh.successes mixedSteps).length by
    rw [two]; decide)
  exact ⟨(recoverable _ rfl rfl).1, two, _, second, ids 1 _ second⟩

end Highlight
