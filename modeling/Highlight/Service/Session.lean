import Highlight.Service.Cache
import Highlight.Service.Rule
import Highlight.Token.Delta

/-!
Contract: requests for tokens.

Owns: the source of ids, the state of a session, and the two requests: all
tokens of a document, and the edits since an array that the editor holds. Both
compute the tokens, encode them under a fresh id and write them to the cache;
edits are made against the array that this very write replaced. A recoverable
failure gives an empty answer without an id; only a request that succeeds takes
an id.
-/

set_option autoImplicit false

namespace Highlight

/-- A source of ids: the decimal texts of a counter of 64 bits. -/
structure IdSource where
  next : UInt64
  deriving DecidableEq, Repr

namespace IdSource

def fresh : IdSource where
  next := 0

def text (number : UInt64) : String :=
  Nat.repr number.toNat

def issue (ids : IdSource) : String × IdSource :=
  (text ids.next, ⟨ids.next + 1⟩)

end IdSource

structure Session where
  cache : Cache
  ids : IdSource
  memo : Memo

structure Reply (α : Type) where
  answer : Except Failure α
  events : List Event
  session : Session

/-- Tokens that were encoded and written to the cache, or nothing to encode. -/
inductive Served where
  | nothing
  | written (tokens : TokenArray) (outcome : StoreOutcome)
  deriving DecidableEq, Repr

/-- Encodes tokens and stamps them with a fresh id, which is taken only on success. -/
def Encoding.stamp (encoding : Encoding) (ids : IdSource) (tokens : List RangedToken) :
    Except OutOfOrder TokenArray × IdSource :=
  match encoding.encode tokens with
  | .error fault => (.error fault, ids)
  | .ok data =>
      let (id, later) := ids.issue
      (.ok ⟨some id, data⟩, later)

def StoreOutcome.report (url : Url) (version : Option Int) : StoreOutcome → List Event
  | .stored _ => []
  | .superseded newer => [.notCached url version (some newer)]

namespace Session

def fresh : Session where
  cache := Cache.empty
  ids := IdSource.fresh
  memo := Memo.empty

def write (session : Session) (encoding : Encoding) (url : Url) (document : DocumentTokens) :
    Reply Served :=
  match encoding.stamp session.ids document.tokens with
  | (.error fault, _) => ⟨.error (.internal (.outOfOrder fault)), [], session⟩
  | (.ok tokens, ids) =>
      let (outcome, cache) := session.cache.store url tokens document.version
      ⟨.ok (.written tokens outcome), outcome.report url document.version,
        { session with cache := cache, ids := ids }⟩

def serve (session : Session) (supplier : Supplier) (encoding : Encoding) (url : Url) :
    Reply Served :=
  let step := session.memo.tokens supplier url
  let session := { session with memo := step.memo }
  match step.output with
  | .ok document =>
      let reply := session.write encoding url document
      { reply with events := step.events ++ reply.events }
  | .error failure =>
      if failure.isRecoverable then ⟨.ok .nothing, step.events, session⟩
      else ⟨.error failure, step.events, session⟩

def fullAnswer : Served → TokenArray
  | .nothing => TokenArray.empty
  | .written tokens _ => tokens

/-- The answer for an editor that holds an array under an id. -/
def deltaAnswer (held : String) : Served → TokenResponse
  | .nothing => .full TokenArray.empty
  | .written tokens (.stored (some previous)) => previous.deltaOrFull tokens held
  | .written tokens _ => .full tokens

def full (session : Session) (supplier : Supplier) (encoding : Encoding) (url : Url) :
    Reply TokenArray :=
  let reply := session.serve supplier encoding url
  ⟨reply.answer.map fullAnswer, reply.events, reply.session⟩

def delta (session : Session) (supplier : Supplier) (encoding : Encoding) (url : Url)
    (held : String) : Reply TokenResponse :=
  let reply := session.serve supplier encoding url
  ⟨reply.answer.map (deltaAnswer held), reply.events, reply.session⟩

end Session

end Highlight
