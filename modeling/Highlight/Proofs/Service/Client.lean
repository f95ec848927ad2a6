import Highlight.Proofs.Service.Numbering
import Mathlib.Algebra.Group.Nat.Defs
import Mathlib.Control.Monad.Basic

/-!
Contract: a client that keeps the arrays it was served can apply every edit that
it is sent.

Owns: the client, which keeps the data of full answers and the outcome of edits
under the ids they came with, and the invariant that ties it to the cache: what
the cache holds for a document, the client holds for that document under the
same id. Arrays have fewer numbers than 32 bits can count, and fewer ids are
served than 64 bits can count.

Two URIs that read as the same URL name the same document.
-/

set_option autoImplicit false

namespace Highlight

structure Holding where
  url : Url
  id : String
  data : List WireToken
  deriving DecidableEq, Repr

/-- The arrays that a client has obtained, newest first. -/
structure Client where
  holdings : List Holding
  deriving DecidableEq, Repr

namespace Client

def empty : Client where
  holdings := []

def find? (client : Client) (url : Url) (id : String) : Option (List WireToken) :=
  (client.holdings.find? fun holding => holding.url = url ∧ holding.id = id).map Holding.data

theorem find?_cons_self (client : Client) (url : Url) (id : String) (data : List WireToken) :
    find? ⟨⟨url, id, data⟩ :: client.holdings⟩ url id = some data := by
  simp [find?]

theorem find?_cons_of_ne
    (client : Client)
    (url other : Url)
    {id otherId : String}
    (data : List WireToken)
    (different : id ≠ otherId) :
    find? ⟨⟨url, id, data⟩ :: client.holdings⟩ other otherId = client.find? other otherId := by
  simp [find?, different]

variable [UrlReading]

/-- The data that an answer gives a client: that of a full array, or what the edits make of the
array held under the id of the request. -/
def obtains? (client : Client) (exchange : Exchange) : Option (List WireToken) :=
  match exchange.message, exchange.reply.answer with
  | _, .full (.ok tokens) => some tokens.data
  | _, .delta (.ok (.full tokens)) => some tokens.data
  | .request (.delta held) _ _, .delta (.ok (.delta edits)) =>
      (exchange.message.document?.bind (client.find? · held)).map (TokenEdit.applyAll edits.edits)
  | _, _ => none

/-- The client after an exchange: it keeps what it obtained under the id that was served. -/
def receive (client : Client) (exchange : Exchange) : Client :=
  match exchange.served?, client.obtains? exchange with
  | some (url, id), some data => ⟨⟨url, id, data⟩ :: client.holdings⟩
  | _, _ => client

def obtained (history : List Exchange) : Client :=
  history.foldl receive empty

theorem obtained_append_singleton (history : List Exchange) (exchange : Exchange) :
    obtained (history ++ [exchange]) = (obtained history).receive exchange := by
  rw [obtained, List.foldl_append]
  rfl

end Client

/-- No array in the cache has more numbers than an edit can refer to. -/
def Server.CacheFits (server : Server) : Prop :=
  ∀ (url : Url) (tokens : TokenArray), server.session.cache.get? url = some tokens →
    WireToken.width * tokens.data.length < 2 ^ 32

def Server.cacheFits (server : Server) : Bool :=
  server.session.cache.entries.toList.all fun entry =>
    WireToken.width * entry.2.tokens.data.length < 2 ^ 32

theorem Server.cacheFits_iff (server : Server) : server.cacheFits = true ↔ server.CacheFits := by
  rw [cacheFits, List.all_eq_true]
  constructor
  · intro entriesFit url tokens found
    obtain ⟨entry, held, rfl⟩ := Option.map_eq_some_iff.mp found
    exact of_decide_eq_true
      (entriesFit (url, entry) (Std.ExtTreeMap.mem_toList_iff_getElem?_eq_some.mpr held))
  · intro fits entry member
    have held := Std.ExtTreeMap.mem_toList_iff_getElem?_eq_some.mp member
    exact decide_eq_true
      (fits entry.1 entry.2.tokens (congrArg (Option.map CacheEntry.tokens) held))

section Mirroring

variable [UrlReading]

/-- What the cache holds was served, and the client holds the same data under its id. -/
def Mirrors (history : List Exchange) (server : Server) : Prop :=
  ∀ (url : Url) (tokens : TokenArray), server.session.cache.get? url = some tokens →
    ∃ id, tokens.resultId = some id ∧ (url, id) ∈ served history ∧
      (Client.obtained history).find? url id = some tokens.data

namespace Server

/-- A quiet exchange adds nothing to the cache. -/
theorem Quiet.get?_eq_some
    {server : Server}
    {message : Message}
    (quiet : server.Quiet message)
    {url : Url}
    {tokens : TokenArray}
    (found : (server.react message).server.session.cache.get? url = some tokens) :
    server.session.cache.get? url = some tokens := by
  rcases quiet.cache with same | ⟨uri, removed, -, -, without⟩
  · rwa [same] at found
  · rw [without, Cache.get?_remove] at found
    by_cases isRemoved : removed = url
    · rw [if_pos isRemoved] at found
      cases found
    · rwa [if_neg isRemoved] at found

end Server

/-! ### One exchange -/

section Exchange

variable {history : List Exchange} {server : Server} {message : Message} {form : RequestForm}
  {url : Url} {data : List WireToken} {version : Option Int}

theorem Client.receive_of_quiet (client : Client) (quiet : server.Quiet message) :
    client.receive ⟨message, server.react message⟩ = client := by
  rw [receive, quiet.served?_eq_none]

/-- An array in the cache was served, and is held by the client, under the id that it has. -/
theorem Mirrors.of_resultId
    (mirrors : Mirrors history server)
    {tokens : TokenArray}
    (cached : server.session.cache.get? url = some tokens)
    {id : String}
    (hasId : tokens.resultId = some id) :
    (url, id) ∈ served history ∧ (Client.obtained history).find? url id = some tokens.data := by
  obtain ⟨ownId, hasOwnId, mirrored⟩ := mirrors url tokens cached
  obtain rfl : ownId = id := Option.some.inj (hasOwnId.symm.trans hasId)
  exact mirrored

/-- What a client makes of an answer is the data that was served, also when the answer has edits
only. -/
theorem Mirrors.obtains?_eq_some
    (mirrors : Mirrors history server)
    (fits : server.CacheFits)
    (serves : server.Serves message form url data version) :
    (Client.obtained history).obtains? ⟨message, server.react message⟩ = some data := by
  rcases serves.answer_cases with
    isFull | isFull | ⟨held, previous, rfl, isHeld, cached, -, isDelta⟩
  · simp only [Client.obtains?, isFull]
    rfl
  · simp only [Client.obtains?, isFull]
    rfl
  · obtain ⟨supplier, uri, tokens, rfl, -⟩ := serves.computed
    obtain ⟨-, found⟩ := mirrors.of_resultId cached isHeld
    simp only [Client.obtains?, isDelta, serves.document, Option.bind_some, found,
      Option.map_some]
    rw [TokenArray.applyAll_delta previous _ (fits url previous cached)]
    rfl

theorem Mirrors.receive_of_serves
    (mirrors : Mirrors history server)
    (fits : server.CacheFits)
    (serves : server.Serves message form url data version) :
    (Client.obtained history).receive ⟨message, server.react message⟩ =
      ⟨⟨url, IdSource.text server.session.ids.next, data⟩ ::
        (Client.obtained history).holdings⟩ := by
  rw [Client.receive, serves.served?_eq_some, mirrors.obtains?_eq_some fits serves]

theorem Mirrors.step
    (mirrors : Mirrors history server)
    (numbered : Numbered history server)
    (fits : server.CacheFits)
    (message : Message) :
    Mirrors (history ++ [⟨message, server.react message⟩]) (server.react message).server := by
  intro other tokens found
  rw [Client.obtained_append_singleton, served_append]
  rcases server.react_cases message with quiet | ⟨form, url, data, version, serves⟩
  · obtain ⟨id, hasId, member, holds⟩ := mirrors other tokens (quiet.get?_eq_some found)
    rw [Client.receive_of_quiet _ quiet]
    exact ⟨id, hasId, List.mem_append_left _ member, holds⟩
  · rw [mirrors.receive_of_serves fits serves]
    rw [serves.cache] at found
    rcases Cache.get?_store_cases found with ⟨rfl, rfl⟩ | before
    · refine ⟨_, rfl, List.mem_append_right _ ?_, Client.find?_cons_self _ _ _ _⟩
      exact (mem_served_iff _ _).mpr ⟨_, List.mem_singleton_self _, serves.served?_eq_some⟩
    · obtain ⟨id, hasId, member, holds⟩ := mirrors other tokens before
      -- The new holding cannot hide an older one, since no id is served twice.
      have different := (numbered.ne_next_of_mem member).symm
      refine ⟨id, hasId, List.mem_append_left _ member, ?_⟩
      rw [Client.find?_cons_of_ne _ _ _ _ different, holds]

end Exchange

/-! ### Whole runs -/

/-- Along every run, a client that keeps what it was served mirrors the cache. -/
theorem mirrors_trace
    (messages : List Message)
    (idsFit : (served (Server.fresh.trace messages)).length < 2 ^ 64)
    (cachesFit : ∀ exchange ∈ Server.fresh.trace messages, exchange.reply.server.CacheFits) :
    Mirrors (Server.fresh.trace messages) (Server.fresh.after messages) ∧
      (Server.fresh.after messages).CacheFits := by
  have run := Server.trace_induction
    (fun history server => (served history).length < 2 ^ 64 →
      (∀ exchange ∈ history, exchange.reply.server.CacheFits) →
      Numbered history server ∧ Mirrors history server ∧ server.CacheFits)
    Server.fresh ?_ ?_ messages
  · exact (run idsFit cachesFit).2
  · intro _ _
    have nothingCached (url : Url) (tokens : TokenArray) :
        Server.fresh.session.cache.get? url ≠ some tokens := by
      intro found
      cases (Cache.get?_empty url).symm.trans found
    refine ⟨⟨rfl, rfl⟩, ?_, ?_⟩
    · exact fun url tokens found => absurd found (nothingCached url tokens)
    · exact fun url tokens found => absurd found (nothingCached url tokens)
  · intro history current message holds idsFitNow cachesFitNow
    obtain ⟨numbered, mirrors, fits⟩ := holds
      (Nat.lt_of_le_of_lt (length_served_le_append history _) idsFitNow)
      fun exchange member => cachesFitNow exchange (List.mem_append_left _ member)
    exact ⟨numbered.step message idsFitNow, mirrors.step numbered fits message,
      cachesFitNow _ (List.mem_append_right _ (List.mem_singleton_self _))⟩

end Mirroring

/-- Whenever a request for edits is answered with edits, the id of the request was served earlier
in the run for the same document, and the edits make the data that the client obtained under it
into the data that is now cached, under the id that the edits carry. -/
theorem edits_apply_to_obtained
    [UrlReading]
    (messages : List Message)
    (idsFit : (served (Server.fresh.trace messages)).length < 2 ^ 64)
    (cachesFit : ∀ exchange ∈ Server.fresh.trace messages, exchange.reply.server.CacheFits)
    (earlier later : List Exchange)
    (held : String)
    (supplier : Supplier)
    (uri : Uri)
    (edits : TokenDelta)
    (events : List Event)
    (server : Server)
    (split : Server.fresh.trace messages =
      earlier ++ ⟨.request (.delta held) supplier uri,
        ⟨.delta (.ok (.delta edits)), events, server⟩⟩ :: later) :
    ∃ url base newId,
      UrlReading.parse uri.text = .ok url ∧
      (∃ exchange ∈ earlier, exchange.served? = some (url, held)) ∧
      (Client.obtained earlier).find? url held = some base ∧
      edits.resultId = some newId ∧
      server.session.cache.get? url =
        some ⟨some newId, TokenEdit.applyAll edits.edits base⟩ := by
  obtain ⟨before, message, rest, rfl, rfl, replied⟩ := Server.exists_of_trace_eq_append_cons split
  obtain ⟨rfl, answered⟩ := Exchange.mk.inj replied
  rw [Server.trace_append] at idsFit cachesFit
  obtain ⟨mirrors, fits⟩ := mirrors_trace before
    (Nat.lt_of_le_of_lt (length_served_le_append _ _) idsFit)
    fun exchange member => cachesFit exchange (List.mem_append_left _ member)
  have answerEq := congrArg ServerReply.answer answered
  have serverEq := congrArg ServerReply.server answered
  rcases (Server.fresh.after before).react_cases (.request (.delta held) supplier uri) with
    quiet | ⟨form, url, data, version, serves⟩
  · -- A quiet exchange has no edits to send.
    have nothing := quiet.nothing
    rw [← answerEq] at nothing
    exact nothing.elim
  · rcases serves.answer_cases with
      isFull | isFull | ⟨asked, previous, rfl, isAsked, cached, cachedNow, isDelta⟩
    · cases answerEq.trans isFull
    · cases answerEq.trans isFull
    · obtain ⟨_, _, _, isRequest, -⟩ := serves.computed
      cases isRequest
      cases answerEq.trans isDelta
      obtain ⟨member, found⟩ := mirrors.of_resultId cached isAsked
      refine ⟨url, previous.data, _, ?_, (mem_served_iff _ _).mp member, found,
        TokenArray.delta_resultId previous _, ?_⟩
      · exact (Message.document?_request_eq_some_iff _ _ _ _).mp serves.document
      · rw [TokenArray.applyAll_delta previous _ (fits url previous cached)]
        exact (congrArg (·.session.cache.get? url) serverEq).trans cachedNow

/-- A build of the text `f g` that has found the given names. -/
def pairBuild (found : List Node) (fingerprint : UInt64) : Supplier where
  tree _ := .present ⟨AnnotatedTree.empty.addFile "b" ⟨⟨⟨0, 0⟩, ⟨0, 3⟩⟩, ∅, found⟩, fingerprint⟩
  names _ := .present ⟨NameMap.empty, 0⟩
  document _ := .present ⟨"f g", none⟩

def letterAt (column : UInt32) (letter : String) : Node :=
  (Node.leaf ⟨⟨0, column⟩, ⟨0, column + 1⟩⟩).addIdentifier (.ofName ⟨letter, 1, none⟩)
    Details.empty

/-- All tokens, asked for when one name was found. -/
def askAll : Message :=
  .request .full (pairBuild [letterAt 0 "f"] 0) ⟨"a:b"⟩

/-- The edits since then, asked for when both names were found. -/
def askEdits : Message :=
  .request (.delta "0") (pairBuild [letterAt 0 "f", letterAt 2 "g"] 1) ⟨"a:b"⟩

def secondName : TokenDelta where
  resultId := some "1"
  edits := [⟨5, 0, some [⟨0, 2, 1, 17, 0⟩]⟩]

theorem edits_apply_to_obtained_second_name :
    (served (Server.fresh.trace [askAll, askEdits])).length < 2 ^ 64 ∧
      (∀ exchange ∈ Server.fresh.trace [askAll, askEdits], exchange.reply.server.CacheFits) ∧
      ((Server.fresh.after [askAll]).react askEdits).answer = .delta (.ok (.delta secondName)) ∧
      ∃ url base,
        Url.parse "a:b" = .ok url ∧
        (Client.obtained (Server.fresh.trace [askAll])).find? url "0" = some base ∧
        ((Server.fresh.after [askAll]).react askEdits).server.session.cache.get? url =
          some ⟨some "1", TokenEdit.applyAll secondName.edits base⟩ := by
  have parsed : UrlReading.parse "a:b" = .ok ⟨"a:b"⟩ := rfl
  have idsFit : (served (Server.fresh.trace [askAll, askEdits])).length < 2 ^ 64 :=
    Nat.lt_of_le_of_lt (List.length_filterMap_le _ _) (by decide)
  have cachesFit :
      ∀ exchange ∈ Server.fresh.trace [askAll, askEdits], exchange.reply.server.CacheFits := by
    have checked :
        (Server.fresh.trace [askAll, askEdits]).all (·.reply.server.cacheFits) = true := by
      rw [askAll, askEdits, Server.trace, Server.trace, Server.react_request _ _ _ parsed,
        Server.react_request _ _ _ parsed]
      decide +kernel
    intro exchange member
    exact exchange.reply.server.cacheFits_iff.mp (List.all_eq_true.mp checked exchange member)
  have answered :
      ((Server.fresh.after [askAll]).react askEdits).answer = .delta (.ok (.delta secondName)) := by
    rw [askAll, askEdits, Server.after, Server.after, Server.react_request _ _ _ parsed,
      Server.react_request _ _ _ parsed]
    refine congrArg Answer.delta ?_
    decide +kernel
  obtain ⟨url, base, newId, isUrl, -, holds, hasId, cached⟩ :=
    edits_apply_to_obtained [askAll, askEdits] idsFit cachesFit _ _ "0" _ ⟨"a:b"⟩ secondName _ _
      (Server.trace_append_singleton_of_answer answered)
  obtain rfl : "1" = newId := Option.some.inj hasId
  exact ⟨idsFit, cachesFit, answered, url, base, isUrl, holds, cached⟩

end Highlight
