import Highlight.Proofs.Service.Client
import Highlight.Proofs.Settings.Format

/-!
Contract: which settings are in force.

Owns: the payloads of a run, the settings that a payload holds, and what a
server is configured as after a run: as the last payload that holds settings
says, and by default if there was none. Settings and encoding change together,
and a payload that holds no settings leaves no trace in the server.

Does not own: which payloads hold settings, beyond that null does not.
-/

set_option autoImplicit false

namespace Highlight

/-- The settings that a payload holds. Null holds none, and neither does a payload that cannot be
read. -/
def Json.settings? (payload : Json) : Option Settings :=
  if payload.isNull then none else (Settings.ofJson payload).toOption

namespace Json

theorem isNull_iff (payload : Json) : payload.isNull = true ↔ payload = .null := by
  cases payload <;> simp [isNull]

theorem settings?_eq_some_iff (payload : Json) (settings : Settings) :
    payload.settings? = some settings ↔
      payload ≠ .null ∧ Settings.ofJson payload = .ok settings := by
  rw [settings?, Ne, ← isNull_iff]
  cases payload.isNull <;> cases Settings.ofJson payload <;> simp [Except.toOption]

theorem settings?_eq_none_iff (payload : Json) :
    payload.settings? = none ↔
      payload = .null ∨ ∃ reason, Settings.ofJson payload = .error reason := by
  rw [settings?, ← isNull_iff]
  cases payload.isNull <;> cases Settings.ofJson payload <;> simp [Except.toOption]

end Json

def Message.payload? : Message → Option Json
  | .start options => options
  | .configure payload => some payload
  | _ => none

/-- The settings of the last payload of a run that holds any, or else the default ones. -/
def settingsInForce (messages : List Message) : Settings :=
  ((messages.filterMap Message.payload?).filterMap Json.settings?).getLast?.getD Settings.default

namespace Server

/-- The server with given settings in place of its own, if any are given. -/
def adopt (server : Server) (settings : Option Settings) : Server where
  resolved := (settings.map Resolved.ofSettings).getD server.resolved
  session := server.session

@[simp] theorem adopt_none (server : Server) : server.adopt none = server := rfl

theorem applySettings_server (server : Server) (source : SettingsSource) (payload : Json) :
    (server.applySettings source payload).server = server.adopt payload.settings? := by
  rw [applySettings, Json.settings?]
  cases payload.isNull with
  | true => rfl
  | false => cases Settings.ofJson payload <;> rfl

/-! ### One message -/

variable [UrlReading]

/-- A message with a payload does nothing but adopt the settings that the payload holds. -/
theorem react_server_of_payload
    (server : Server)
    {message : Message}
    {payload : Json}
    (sends : message.payload? = some payload) :
    (server.react message).server = server.adopt payload.settings? := by
  cases message with
  | start options =>
      obtain rfl : options = some payload := sends
      exact server.applySettings_server .initialization payload
  | configure sent =>
      obtain rfl : sent = payload := Option.some.inj sends
      exact server.applySettings_server .configuration sent
  | _ => cases sends

theorem react_resolved_of_no_payload
    (server : Server)
    {message : Message}
    (sendsNone : message.payload? = none) :
    (server.react message).server.resolved = server.resolved := by
  cases message with
  | start options =>
      obtain rfl : options = none := sendsNone
      rfl
  | configure payload => cases sendsNone
  | opened uri version => rfl
  | closed uri =>
      cases parsed : UrlReading.parse uri.text with
      | error reason => rw [server.react_closed_invalid parsed]
      | ok url => rw [server.react_closed parsed]
  | request form supplier uri =>
      cases parsed : UrlReading.parse uri.text with
      | error reason => rw [(server.react_request_invalid form supplier parsed).2]
      | ok url => rw [server.react_request form supplier parsed]
  | shutdown => rfl

/-! ### Whole runs -/

/-- A server is configured as the last payload that holds settings says, or else as before. -/
theorem after_resolved (server : Server) (messages : List Message) :
    (server.after messages).resolved =
      (((messages.filterMap Message.payload?).filterMap Json.settings?).getLast?.map
        Resolved.ofSettings).getD server.resolved := by
  induction messages generalizing server with
  | nil => rfl
  | cons message rest inductionHypothesis =>
      rw [after, inductionHypothesis]
      cases sends : message.payload? with
      | none =>
          rw [List.filterMap_cons_none sends, server.react_resolved_of_no_payload sends]
      | some payload =>
          rw [List.filterMap_cons_some sends, server.react_server_of_payload sends, adopt]
          cases holds : payload.settings? with
          | none =>
              rw [List.filterMap_cons_none holds]
              rfl
          | some settings =>
              rw [List.filterMap_cons_some holds, List.getLast?_cons]
              cases ((rest.filterMap Message.payload?).filterMap Json.settings?).getLast? <;> rfl

/-- Settings and encoding of a fresh server stay in step. -/
theorem fresh_after_resolved (messages : List Message) :
    (Server.fresh.after messages).resolved = Resolved.ofSettings (settingsInForce messages) := by
  rw [after_resolved, settingsInForce]
  cases ((messages.filterMap Message.payload?).filterMap Json.settings?).getLast? <;> rfl

end Server

/-- The settings of a run. After any messages to a fresh server, the settings held are those of the
last payload that holds any, or the default ones, and the encoding is the one made from them. What
such a payload does not have is the default, whatever was configured before. The next request is
served with this encoding, and a payload that is null or cannot be read leaves the server as it
is. -/
theorem settings_of_last_payload [UrlReading] (messages : List Message) :
    let server := Server.fresh.after messages
    server.resolved.settings = settingsInForce messages ∧
      server.resolved.encoding = Encoding.ofSettings (settingsInForce messages) ∧
      (∀ (payload : Json) (settings : Settings), payload.settings? = some settings →
        settings.FilledFrom payload) ∧
      (∀ (form : RequestForm) (supplier : Supplier) (uri : Uri) (url : Url),
        UrlReading.parse uri.text = .ok url →
        let encoding := Encoding.ofSettings (settingsInForce messages)
        let reply := server.session.serve supplier encoding url
        server.react (.request form supplier uri) =
          ⟨form.answer reply.answer, reply.events, { server with session := reply.session }⟩) ∧
      ∀ (message : Message) (payload : Json), message.payload? = some payload →
        (payload = .null ∨ ∃ reason, Settings.ofJson payload = .error reason) →
        (server.react message).server = server := by
  intro server
  have resolved := Server.fresh_after_resolved messages
  have settingsEq := congrArg Resolved.settings resolved
  have encodingEq := congrArg Resolved.encoding resolved
  refine ⟨settingsEq, encodingEq, fun payload settings holds => ?_, ?_, ?_⟩
  · exact Settings.filledFrom_of_ofJson ((payload.settings?_eq_some_iff settings).mp holds).2
  · intro form supplier uri url parsed
    have replied := server.react_request form supplier parsed
    rwa [encodingEq] at replied
  · intro message payload sends holdsNone
    rw [server.react_server_of_payload sends, payload.settings?_eq_none_iff.mpr holdsNone,
      Server.adopt_none]

def nestedPayload : Json :=
  .object [("hieroglyph", .object [("semanticTokens",
    .object [("classToken", .string "struct"), ("variableToken", .string "parameter")])])]

/-- A later payload, which says nothing of classes. -/
def laterPayload : Json :=
  .object [("semanticTokens",
    .object [("defaultLibraryModules", .array [.string "M"]),
      ("variableToken", .string "property")])]

/-- A payload that is wrong in an item of its list of modules. -/
def brokenPayload : Json :=
  .object [("semanticTokens",
    .object [("classToken", .string "struct"),
      ("defaultLibraryModules", .array [.string "N", .null])])]

/-- Two payloads that hold settings, and after them two that do not, with a document opened in
between. -/
def configuredRun : List Message :=
  [.start (some nestedPayload), .configure laterPayload, .configure brokenPayload,
    .opened ⟨"a:b"⟩ 1, .configure .null]

/-- The second payload is in force: classes are back at their default, variables are properties, and
what the server is asked next is answered so. -/
theorem settings_of_last_payload_reset :
    let server := Server.fresh.after configuredRun
    server.resolved.settings.typeOf .var = "property" ∧
      server.resolved.settings.typeOf .typeClass = "class" ∧
      server.resolved.settings.libraryModules = ["M"] ∧
      (server.react askAll).answer = .full (.ok ⟨some "0", [⟨0, 0, 1, 19, 0⟩]⟩) ∧
      (server.react (.configure brokenPayload)).server = server := by
  intro server
  have parsed : UrlReading.parse "a:b" = .ok ⟨"a:b"⟩ := rfl
  have holds : laterPayload.settings? = some (settingsInForce configuredRun) := rfl
  have broken : ∃ reason, Settings.ofJson brokenPayload = .error reason := ⟨_, rfl⟩
  obtain ⟨held, -, filled, served, kept⟩ := settings_of_last_payload configuredRun
  have fromLater := filled laterPayload _ holds
  have variableType := fromLater.type_of_some .var (.string "property") rfl
  have modules := fromLater.modules_of_some (.array [.string "M"]) rfl
  have answered : (server.react askAll).answer = .full (.ok ⟨some "0", [⟨0, 0, 1, 19, 0⟩]⟩) := by
    have settled : server.session = Session.fresh := rfl
    have computed : (server.session.memo.tokens (pairBuild [letterAt 0 "f"] 0) ⟨"a:b"⟩).output =
        .ok ⟨[Encoding.variableAt ⟨0, 0, 1⟩], none⟩ := by
      rw [settled]
      decide +kernel
    have encoded : (Encoding.ofSettings (settingsInForce configuredRun)).encode
        [Encoding.variableAt ⟨0, 0, 1⟩] = .ok [⟨0, 0, 1, 19, 0⟩] := rfl
    rw [askAll, served _ _ _ _ parsed, server.session.serve_of_encode_ok _ computed encoded]
    show Answer.full (.ok (Session.fresh.stamped [⟨0, 0, 1, 19, 0⟩])) = _
    refine congrArg (fun tokens => Answer.full (.ok tokens)) ?_
    decide +kernel
  refine ⟨?_, ?_, ?_, answered, kept _ brokenPayload rfl (Or.inr broken)⟩
  · rw [held]
    exact (Json.string.inj variableType).symm
  · rw [held]
    exact fromLater.type_of_none .typeClass rfl
  · rw [held, ← Json.texts_array_map_string (settingsInForce configuredRun).libraryModules,
      ← modules]
    rfl

end Highlight
