import Highlight.Proofs.Service.Serve
import Highlight.Service.Server

/-!
Contract: runs of a server.

Owns: the messages that an editor sends, each request with the artifacts of its
moment, the exchanges of a run, and the induction over runs. What the artifacts
were before or will be later is not fixed, so every change between two messages
is covered.

Does not own: messages in flight at the same time. A run takes one message after
another.
-/

set_option autoImplicit false

namespace Highlight

/-- The two requests for tokens: all of them, or the edits since the array held under an id. -/
inductive RequestForm where
  | full
  | delta (held : String)
  deriving DecidableEq, Repr

/-- What an editor sends. A request goes with the supplier as it is when it is asked. -/
inductive Message where
  | start (options : Option Json)
  | configure (payload : Json)
  | opened (uri : Uri) (version : Int)
  | closed (uri : Uri)
  | request (form : RequestForm) (supplier : Supplier) (uri : Uri)
  | shutdown

/-- What a server answers; to a notification it has no answer. -/
inductive Answer where
  | noted
  | greeting (capabilities : Json)
  | full (answer : Except Failure TokenArray)
  | delta (answer : Except Failure TokenResponse)

def RequestForm.answer (served : Except Failure Served) : RequestForm → Answer
  | .full => .full (served.map Session.fullAnswer)
  | .delta held => .delta (served.map (Session.deltaAnswer held))

def ServerReply.map {α β : Type} (read : α → β) (reply : ServerReply α) : ServerReply β where
  answer := read reply.answer
  events := reply.events
  server := reply.server

structure Exchange where
  message : Message
  reply : ServerReply Answer

def Answer.resultId? : Answer → Option String
  | .full (.ok tokens) => tokens.resultId
  | .delta (.ok (.full tokens)) => tokens.resultId
  | .delta (.ok (.delta edits)) => edits.resultId
  | _ => none

/-- The answer gives the editor no array: it is no answer to a request, a failure, or the empty
array without an id. -/
def Answer.ServesNothing : Answer → Prop
  | .full (.ok tokens) => tokens = TokenArray.empty
  | .delta (.ok (.full tokens)) => tokens = TokenArray.empty
  | .delta (.ok (.delta _)) => False
  | _ => True

theorem RequestForm.servesNothing_of_nothing (form : RequestForm) :
    (form.answer (.ok .nothing)).ServesNothing := by
  cases form <;> rfl

theorem RequestForm.servesNothing_of_error (form : RequestForm) (failure : Failure) :
    (form.answer (.error failure)).ServesNothing := by
  cases form <;> trivial

theorem Answer.ServesNothing.resultId?_eq_none
    {answer : Answer}
    (nothing : answer.ServesNothing) :
    answer.resultId? = none := by
  match answer, nothing with
  | .noted, _ => rfl
  | .greeting _, _ => rfl
  | .full (.error _), _ => rfl
  | .full (.ok _), isEmpty => exact congrArg TokenArray.resultId isEmpty
  | .delta (.error _), _ => rfl
  | .delta (.ok (.full _)), isEmpty => exact congrArg TokenArray.resultId isEmpty

namespace Server

theorem applySettings_session (server : Server) (source : SettingsSource) (payload : Json) :
    (server.applySettings source payload).server.session = server.session := by
  unfold applySettings
  split
  · rfl
  · split <;> rfl

theorem start_session (server : Server) (options : Option Json) :
    (server.start options).server.session = server.session := by
  cases options with
  | none => rfl
  | some payload => exact applySettings_session server .initialization payload

end Server

/-! ### Messages and their replies -/

variable [UrlReading]

/-- The document that a message names; none when its URI is no URL. -/
def Message.document? : Message → Option Url
  | .opened uri _ | .closed uri | .request _ _ uri => (UrlReading.parse uri.text).toOption
  | _ => none

theorem Message.document?_request_eq_some_iff
    (form : RequestForm)
    (supplier : Supplier)
    (uri : Uri)
    (url : Url) :
    (Message.request form supplier uri).document? = some url ↔
      UrlReading.parse uri.text = .ok url := by
  rw [document?]
  cases UrlReading.parse uri.text <;> simp [Except.toOption]

def Exchange.served? (exchange : Exchange) : Option (Url × String) :=
  match exchange.message.document?, exchange.reply.answer.resultId? with
  | some url, some id => some (url, id)
  | _, _ => none

namespace Server

def react (server : Server) : Message → ServerReply Answer
  | .start options => (server.start options).map .greeting
  | .configure payload => (server.configure payload).map fun _ => .noted
  | .opened uri version => (server.opened uri version).map fun _ => .noted
  | .closed uri => (server.closed uri).map fun _ => .noted
  | .request .full supplier uri => (server.full supplier uri).map .full
  | .request (.delta held) supplier uri => (server.delta supplier uri held).map .delta
  | .shutdown => server.shutdown.map fun _ => .noted

def trace (server : Server) : List Message → List Exchange
  | [] => []
  | message :: rest =>
      let reply := server.react message
      ⟨message, reply⟩ :: reply.server.trace rest

def after (server : Server) : List Message → Server
  | [] => server
  | message :: rest => (server.react message).server.after rest

theorem trace_append (server : Server) (first second : List Message) :
    server.trace (first ++ second) = server.trace first ++ (server.after first).trace second := by
  induction first generalizing server with
  | nil => rfl
  | cons message rest inductionHypothesis =>
      rw [List.cons_append, trace, trace, after, inductionHypothesis, List.cons_append]

/-- The last exchange of a run, with its answer spelled out. -/
theorem trace_append_singleton_of_answer
    {server : Server}
    {before : List Message}
    {message : Message}
    {answer : Answer}
    (answered : ((server.after before).react message).answer = answer) :
    server.trace (before ++ [message]) =
      server.trace before ++ [⟨message, answer, ((server.after before).react message).events,
        ((server.after before).react message).server⟩] := by
  subst answered
  exact server.trace_append before [message]

/-- Every exchange of a run is the reply to a message in the state that the messages before it
left. -/
theorem exists_of_trace_eq_append_cons
    {server : Server}
    {messages : List Message}
    {earlier later : List Exchange}
    {exchange : Exchange}
    (split : server.trace messages = earlier ++ exchange :: later) :
    ∃ before message rest,
      messages = before ++ message :: rest ∧ earlier = server.trace before ∧
        exchange = ⟨message, (server.after before).react message⟩ := by
  induction messages generalizing server earlier with
  | nil => simp [trace] at split
  | cons first others inductionHypothesis =>
      rw [trace] at split
      cases earlier with
      | nil =>
          obtain ⟨isFirst, -⟩ := List.cons.inj split
          exact ⟨[], first, others, rfl, rfl, isFirst.symm⟩
      | cons head tail =>
          obtain ⟨isHead, restSplit⟩ := List.cons.inj split
          obtain ⟨before, message, rest, rfl, rfl, isReply⟩ := inductionHypothesis restSplit
          exact ⟨first :: before, message, rest, rfl, by rw [trace, ← isHead], isReply⟩

/-- What holds of a server before any message, and is kept by every reply, holds after every
run. -/
theorem trace_induction
    (Holds : List Exchange → Server → Prop)
    (server : Server)
    (atStart : Holds [] server)
    (kept : ∀ history current message, Holds history current →
      Holds (history ++ [⟨message, current.react message⟩]) (current.react message).server)
    (messages : List Message) :
    Holds (server.trace messages) (server.after messages) := by
  have fromHere : ∀ (rest : List Message) (history : List Exchange) (current : Server),
      Holds history current → Holds (history ++ current.trace rest) (current.after rest) := by
    intro rest
    induction rest with
    | nil =>
        intro history current holds
        rwa [trace, after, List.append_nil]
    | cons message others inductionHypothesis =>
        intro history current holds
        have next := inductionHypothesis _ _ (kept history current message holds)
        rwa [List.append_assoc] at next
  exact fromHere messages [] server atStart

/-! ### What a message does to cache and ids -/

/-- A request for a document serves it and reads the answer off what was served. -/
theorem react_request
    (server : Server)
    (form : RequestForm)
    (supplier : Supplier)
    {uri : Uri}
    {url : Url}
    (parsed : UrlReading.parse uri.text = .ok url) :
    let reply := server.session.serve supplier server.resolved.encoding url
    server.react (.request form supplier uri) =
      ⟨form.answer reply.answer, reply.events, { server with session := reply.session }⟩ := by
  cases form with
  | full =>
      rw [react, full, parsed]
      rfl
  | delta held =>
      rw [react, delta, parsed]
      rfl

/-- A request with a URI that is no URL is answered as one that had nothing to serve. -/
theorem react_request_invalid
    (server : Server)
    (form : RequestForm)
    (supplier : Supplier)
    {uri : Uri}
    {reason : UrlError}
    (parsed : UrlReading.parse uri.text = .error reason) :
    (server.react (.request form supplier uri)).answer = form.answer (.ok .nothing) ∧
      (server.react (.request form supplier uri)).server = server := by
  cases form with
  | full =>
      rw [react, full, parsed]
      exact ⟨rfl, rfl⟩
  | delta held =>
      rw [react, delta, parsed]
      exact ⟨rfl, rfl⟩

/-- Closing a document removes it from the cache and from the memo. -/
theorem react_closed
    (server : Server)
    {uri : Uri}
    {url : Url}
    (parsed : UrlReading.parse uri.text = .ok url) :
    (server.react (.closed uri)).server =
      { server with
        session := { server.session with
          cache := server.session.cache.remove url,
          memo := server.session.memo.invalidate url } } := by
  rw [react, closed, parsed]
  rfl

theorem react_closed_invalid
    (server : Server)
    {uri : Uri}
    {reason : UrlError}
    (parsed : UrlReading.parse uri.text = .error reason) :
    (server.react (.closed uri)).server = server := by
  rw [react, closed, parsed]
  rfl

/-- The exchange serves no array: it takes no id and leaves the cache as it is, unless it closes
a document. -/
structure Quiet (server : Server) (message : Message) : Prop where
  nothing : (server.react message).answer.ServesNothing
  sameIds : (server.react message).server.session.ids = server.session.ids
  cache :
    (server.react message).server.session.cache = server.session.cache ∨
      ∃ uri url, message = .closed uri ∧ message.document? = some url ∧
        (server.react message).server.session.cache = server.session.cache.remove url

/-- The exchange serves tokens of a document under the next id, after handing them to the
cache. -/
structure Serves (server : Server) (message : Message) (form : RequestForm) (url : Url)
    (data : List WireToken) (version : Option Int) : Prop where
  document : message.document? = some url
  computed :
    ∃ supplier uri tokens, message = .request form supplier uri ∧
      (server.session.memo.tokens supplier url).output = .ok ⟨tokens, version⟩ ∧
      server.resolved.encoding.encode tokens = .ok data
  takesId : (server.react message).server.session.ids = ⟨server.session.ids.next + 1⟩
  cache :
    (server.react message).server.session.cache =
      (server.session.cache.store url (server.session.stamped data) version).2
  answer :
    (server.react message).answer =
      form.answer (.ok (.written (server.session.stamped data)
        (server.session.cache.store url (server.session.stamped data) version).1))

/-- An array is served whole, or as edits against the array that it replaced in the cache, which
then has the id of the request. -/
theorem Serves.answer_cases
    {server : Server}
    {message : Message}
    {form : RequestForm}
    {url : Url}
    {data : List WireToken}
    {version : Option Int}
    (serves : server.Serves message form url data version) :
    let current := server.session.stamped data
    (server.react message).answer = .full (.ok current) ∨
      (server.react message).answer = .delta (.ok (.full current)) ∨
      ∃ held previous, form = .delta held ∧ previous.resultId = some held ∧
        server.session.cache.get? url = some previous ∧
        (server.react message).server.session.cache.get? url = some current ∧
        (server.react message).answer = .delta (.ok (.delta (previous.delta current))) := by
  intro current
  rw [serves.answer, serves.cache]
  cases form with
  | full => exact Or.inl rfl
  | delta held =>
      rcases Session.deltaAnswer_store_cases held server.session.cache url current version with
        ⟨entry, isHeld, sameId, notOlder, isDelta⟩ | ⟨-, isFull⟩
      · exact Or.inr (Or.inr ⟨held, entry.tokens, rfl, sameId,
          congrArg (Option.map CacheEntry.tokens) isHeld,
          Cache.get?_store_of_not_isOlder isHeld notOlder current,
          congrArg (fun response => Answer.delta (.ok response)) isDelta⟩)
      · exact Or.inr (Or.inl (congrArg (fun response => Answer.delta (.ok response)) isFull))

/-- A request serves tokens that the rule has and the encoder takes. -/
theorem serves_of_encode_ok
    (server : Server)
    (form : RequestForm)
    {supplier : Supplier}
    {uri : Uri}
    {url : Url}
    (parsed : UrlReading.parse uri.text = .ok url)
    {document : DocumentTokens}
    {data : List WireToken}
    (outputEq : (server.session.memo.tokens supplier url).output = .ok document)
    (encoded : server.resolved.encoding.encode document.tokens = .ok data) :
    server.Serves (.request form supplier uri) form url data document.version := by
  have replied := server.react_request form supplier parsed
  rw [server.session.serve_of_encode_ok _ outputEq encoded] at replied
  have documentEq := (Message.document?_request_eq_some_iff form supplier uri url).mpr parsed
  have computed := And.intro outputEq encoded
  refine ⟨documentEq, ⟨supplier, uri, document.tokens, rfl, computed⟩, ?_, ?_, ?_⟩ <;>
    rw [replied] <;> rfl

theorem request_cases
    (server : Server)
    (form : RequestForm)
    (supplier : Supplier)
    (uri : Uri) :
    server.Quiet (.request form supplier uri) ∨
      ∃ url data version,
        server.Serves (.request form supplier uri) form url data version := by
  cases parsed : UrlReading.parse uri.text with
  | error reason =>
      obtain ⟨answerEq, serverEq⟩ := server.react_request_invalid form supplier parsed
      refine Or.inl ⟨?_, ?_, Or.inl ?_⟩
      · rw [answerEq]
        exact form.servesNothing_of_nothing
      · rw [serverEq]
      · rw [serverEq]
  | ok url =>
      have replied := server.react_request form supplier parsed
      rcases server.session.serve_cases supplier server.resolved.encoding url with
        ⟨failure, -, -, served⟩ | ⟨failure, -, -, served⟩ | ⟨document, fault, -, -, served⟩ |
          ⟨document, data, outputEq, encoded, -⟩
      · rw [served] at replied
        refine Or.inl ⟨?_, ?_, Or.inl ?_⟩ <;> rw [replied]
        exact form.servesNothing_of_nothing
      · rw [served] at replied
        refine Or.inl ⟨?_, ?_, Or.inl ?_⟩ <;> rw [replied]
        exact form.servesNothing_of_error failure
      · rw [served] at replied
        refine Or.inl ⟨?_, ?_, Or.inl ?_⟩ <;> rw [replied]
        exact form.servesNothing_of_error _
      · exact Or.inr ⟨url, data, document.version,
          server.serves_of_encode_ok form parsed outputEq encoded⟩

/-- Every message serves no array, or serves one under the next id. -/
theorem react_cases (server : Server) (message : Message) :
    server.Quiet message ∨
      ∃ form url data version, server.Serves message form url data version := by
  cases message with
  | start options =>
      have session := start_session server options
      exact Or.inl ⟨trivial, congrArg Session.ids session, Or.inl (congrArg Session.cache session)⟩
  | configure payload =>
      have session := applySettings_session server .configuration payload
      exact Or.inl ⟨trivial, congrArg Session.ids session, Or.inl (congrArg Session.cache session)⟩
  | opened uri version => exact Or.inl ⟨trivial, rfl, Or.inl rfl⟩
  | closed uri =>
      cases parsed : UrlReading.parse uri.text with
      | error reason =>
          refine Or.inl ⟨trivial, ?_, Or.inl ?_⟩ <;> rw [server.react_closed_invalid parsed]
      | ok url =>
          refine Or.inl ⟨trivial, ?_, Or.inr ⟨uri, url, rfl, ?_, ?_⟩⟩
          · rw [server.react_closed parsed]
          · rw [Message.document?, parsed]
            rfl
          · rw [server.react_closed parsed]
  | request form supplier uri =>
      rcases request_cases server form supplier uri with quiet | ⟨url, data, version, serves⟩
      · exact Or.inl quiet
      · exact Or.inr ⟨form, url, data, version, serves⟩
  | shutdown => exact Or.inl ⟨trivial, rfl, Or.inl rfl⟩

end Server

end Highlight
