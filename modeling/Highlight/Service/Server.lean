import Highlight.Service.Session
import Highlight.Url.Reader

/-!
Contract: the language server.

Owns: the state of a server, and its answers to an editor's messages: the start
of a session with what the server can do, settings, documents opened and closed,
and requests for tokens. A payload that holds no settings changes nothing, and a
message with a URI that is no URL has an empty answer.
-/

set_option autoImplicit false

namespace Highlight

structure Resolved where
  settings : Settings
  encoding : Encoding

def Resolved.ofSettings (settings : Settings) : Resolved where
  settings := settings
  encoding := Encoding.ofSettings settings

structure Server where
  resolved : Resolved
  session : Session

structure ServerReply (α : Type) where
  answer : α
  events : List Event
  server : Server

namespace Server

def fresh : Server where
  resolved := Resolved.ofSettings Settings.default
  session := Session.fresh

/-- Applies a settings payload. Null is no payload; one that holds no settings is reported and
otherwise ignored. -/
def applySettings (server : Server) (source : SettingsSource) (payload : Json) :
    ServerReply Unit :=
  if payload.isNull then ⟨(), [], server⟩
  else
    match Settings.ofJson payload with
    | .ok settings =>
        ⟨(), .settingsApplied source :: settings.unknownTypes.map .unknownType,
          { server with resolved := Resolved.ofSettings settings }⟩
    | .error reason => ⟨(), [.settingsIgnored source reason], server⟩

def capabilities : Json :=
  .object [
    ("semanticTokensProvider", .object [
      ("full", .object [("delta", .bool true)]),
      ("legend", .object [
        ("tokenModifiers", .array (Legend.modifiers.map .string)),
        ("tokenTypes", .array (Legend.types.map .string))]),
      ("range", .bool false)]),
    ("textDocumentSync", .object [("change", Json.ofNat 0), ("openClose", .bool true)])]

def greeting : Json :=
  .object [
    ("capabilities", capabilities),
    ("serverInfo", .object [("name", .string "hieroglyph"), ("version", .string "0.0.12")])]

def start (server : Server) (options : Option Json) : ServerReply Json :=
  match options with
  | none => ⟨greeting, [.initializing], server⟩
  | some payload =>
      let reply := server.applySettings .initialization payload
      ⟨greeting, .initializing :: reply.events, reply.server⟩

/-- The notification that the server sends once a session has started. -/
def startedNotice : Json :=
  .object [
    ("jsonrpc", .string "2.0"),
    ("method", .string "window/logMessage"),
    ("params", .object [("message", .string "hieroglyph initialized"), ("type", Json.ofNat 3)])]

def configure (server : Server) (payload : Json) : ServerReply Unit :=
  server.applySettings .configuration payload

def shutdown (server : Server) : ServerReply Unit :=
  ⟨(), [.shuttingDown], server⟩

def opened (server : Server) (uri : Uri) (version : Int) : ServerReply Unit :=
  ⟨(), [.opened uri version], server⟩

variable [UrlReading]

def closed (server : Server) (uri : Uri) : ServerReply Unit :=
  match UrlReading.parse uri.text with
  | .error _ => ⟨(), [.invalidUri .close uri], server⟩
  | .ok url =>
      let session := server.session
      let forgotten := { session with
        cache := session.cache.remove url, memo := session.memo.invalidate url }
      ⟨(), [.closed url], { server with session := forgotten }⟩

def full (server : Server) (supplier : Supplier) (uri : Uri) :
    ServerReply (Except Failure TokenArray) :=
  match UrlReading.parse uri.text with
  | .error _ => ⟨.ok TokenArray.empty, [.invalidUri .full uri], server⟩
  | .ok url =>
      let reply := server.session.full supplier server.resolved.encoding url
      ⟨reply.answer, reply.events, { server with session := reply.session }⟩

/-- The edits since the array that an editor holds, or all tokens. -/
def delta (server : Server) (supplier : Supplier) (uri : Uri) (held : String) :
    ServerReply (Except Failure TokenResponse) :=
  match UrlReading.parse uri.text with
  | .error _ => ⟨.ok (.full TokenArray.empty), [.invalidUri .delta uri], server⟩
  | .ok url =>
      let reply := server.session.delta supplier server.resolved.encoding url held
      ⟨reply.answer, reply.events, { server with session := reply.session }⟩

/-- The settings holder and the number of cached documents, as diagnostics show them. -/
def describe (server : Server) : String :=
  "SettingsManager \x7b current: \"ArcSwap<ResolvedSettings>\" \x7d, cached_documents: " ++
    toString server.session.cache.size ++ ", .. \x7d"

end Server

end Highlight
