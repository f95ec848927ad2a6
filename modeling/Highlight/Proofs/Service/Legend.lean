import Highlight.Proofs.Service.Configuration
import Highlight.Proofs.Token.Legend

/-!
Contract: everything that is served can be read through the legend that was
announced.

Owns: the wire tokens of an answer, whole arrays and the data of edits alike,
and the legend as a greeting announces it. Edits insert tokens of the array that
they lead to, so whatever holds of encoded tokens holds of edits.

Does not own: where the tokens stand in the document.
-/

set_option autoImplicit false

namespace Highlight

/-- The wire tokens that an answer carries: those of an array, or those that edits insert. -/
def Answer.wireTokens : Answer → List WireToken
  | .full (.ok tokens) => tokens.data
  | .delta (.ok (.full tokens)) => tokens.data
  | .delta (.ok (.delta edits)) => edits.edits.flatMap fun edit => edit.data.getD []
  | _ => []

def Json.follow? (value : Json) (path : List String) : Option Json :=
  path.foldlM get? value

/-- A greeting announces the legend: both lists of names, in the order of their numbers. -/
structure Json.AnnouncesLegend (greeting : Json) : Prop where
  types : greeting.follow? ["capabilities", "semanticTokensProvider", "legend", "tokenTypes"] =
    some (.array (Legend.types.map .string))
  modifiers :
    greeting.follow? ["capabilities", "semanticTokensProvider", "legend", "tokenModifiers"] =
      some (.array (Legend.modifiers.map .string))

theorem Answer.ServesNothing.wireTokens_eq_nil
    {answer : Answer}
    (nothing : answer.ServesNothing) :
    answer.wireTokens = [] := by
  match answer, nothing with
  | .noted, _ => rfl
  | .greeting _, _ => rfl
  | .full (.error _), _ => rfl
  | .full (.ok _), isEmpty => exact congrArg TokenArray.data isEmpty
  | .delta (.error _), _ => rfl
  | .delta (.ok (.full _)), isEmpty => exact congrArg TokenArray.data isEmpty

/-- Edits insert nothing that the new array does not have. -/
theorem TokenArray.mem_of_mem_delta
    {previous current : TokenArray}
    {wire : WireToken}
    (member : wire ∈ (Answer.delta (.ok (.delta (previous.delta current)))).wireTokens) :
    wire ∈ current.data := by
  rw [Answer.wireTokens] at member
  rcases delta_cases previous current with
    ⟨-, noEdits⟩ | ⟨-, front, removed, inserted, rear, -, currentEq, oneEdit⟩
  · rw [noEdits] at member
    cases member
  · rw [oneEdit] at member
    have isInserted : wire ∈ inserted := by
      simpa [TokenEdit.replacing] using member
    rw [currentEq]
    exact List.mem_append_left _ (List.mem_append_right _ isInserted)

namespace Server

/-! ### One message -/

variable [UrlReading]

theorem Serves.mem_of_mem_wireTokens
    {server : Server}
    {message : Message}
    {form : RequestForm}
    {url : Url}
    {data : List WireToken}
    {version : Option Int}
    (serves : server.Serves message form url data version)
    {wire : WireToken}
    (member : wire ∈ (server.react message).answer.wireTokens) :
    wire ∈ data := by
  rcases serves.answer_cases with isFull | isFull | ⟨_, _, -, -, -, -, isDelta⟩
  · rwa [isFull] at member
  · rwa [isFull] at member
  · rw [isDelta] at member
    exact TokenArray.mem_of_mem_delta member

/-- A server whose encoding is made from its settings answers with tokens as the settings ask. The
message that is answered so is a request, and leaves the settings as they are. -/
theorem exists_shows_of_react
    {server : Server}
    {settings : Settings}
    (resolved : server.resolved = Resolved.ofSettings settings)
    {message : Message}
    {wire : WireToken}
    (member : wire ∈ (server.react message).answer.wireTokens) :
    ∃ token, wire.Shows (server.react message).server.resolved.settings token := by
  rcases server.react_cases message with quiet | ⟨form, url, data, version, serves⟩
  · rw [quiet.nothing.wireTokens_eq_nil] at member
    cases member
  · obtain ⟨supplier, uri, tokens, rfl, -, encoded⟩ := serves.computed
    rw [server.react_resolved_of_no_payload rfl]
    rw [resolved] at encoded ⊢
    obtain ⟨token, -, shows⟩ :=
      Encoding.exists_shows_of_encodeAfter encoded (serves.mem_of_mem_wireTokens member)
    exact ⟨token, shows⟩

/-- Whatever greeting a server gives announces the legend. -/
theorem announcesLegend_of_react
    {server : Server}
    {message : Message}
    {given : Json}
    (greets : (server.react message).answer = .greeting given) :
    given.AnnouncesLegend := by
  have announces : greeting.AnnouncesLegend := ⟨rfl, rfl⟩
  match message, greets with
  | .start none, rfl => exact announces
  | .start (some _), rfl => exact announces

end Server

/-- Everything served can be read through the legend. In every run, whatever the payloads, each
token of a served array and of the data of served edits has the index of a type and bits of
modifiers only, and shows a token as the settings held ask; every greeting announces the legend.
Under any settings the index of a kind is that of the configured type, or of the default if the
legend does not have it, and the bits are those of the modifiers that the token is shown with. -/
theorem served_tokens_in_legend [UrlReading] :
    (∀ messages : List Message, ∀ exchange ∈ Server.fresh.trace messages,
        (∀ wire ∈ exchange.reply.answer.wireTokens, wire.InLegend ∧
          ∃ token, wire.Shows exchange.reply.server.resolved.settings token) ∧
        ∀ given, exchange.reply.answer = .greeting given → given.AnnouncesLegend) ∧
      (∀ (settings : Settings) (kind : TokenKind),
        Legend.types[((Encoding.ofSettings settings).typeIndex kind).toNat]? =
          some (settings.shownType kind)) ∧
      ∀ (settings : Settings) (token : RangedToken) (position : Nat),
        ((Encoding.ofSettings settings).modifierBits token).toNat.testBit position = true ↔
          ∃ name, Legend.modifiers[position]? = some name ∧ token.ShownWith settings name := by
  refine ⟨fun messages exchange member => ?_, Encoding.types_getElem?_ofSettings,
    Encoding.testBit_modifierBits_iff⟩
  obtain ⟨earlier, later, split⟩ := List.append_of_mem member
  obtain ⟨before, message, -, -, -, rfl⟩ := Server.exists_of_trace_eq_append_cons split
  refine ⟨fun wire isServed => ?_, fun given greets => Server.announcesLegend_of_react greets⟩
  obtain ⟨token, shows⟩ :=
    Server.exists_shows_of_react (Server.fresh_after_resolved before) isServed
  exact ⟨shows.inLegend, token, shows⟩

/-- A payload with a type that the legend does not have, and with a default library. -/
def glyphPayload : Json :=
  .object [("semanticTokens", .object [
    ("defaultLibraryModules", .array [.string "M"]), ("variableToken", .string "glyph")])]

def glyphStart : Message :=
  .start (some glyphPayload)

def glyphSettings : Settings :=
  settingsInForce [glyphStart]

def importedLetter : Node :=
  (Node.leaf ⟨⟨0, 2⟩, ⟨0, 3⟩⟩).addIdentifier (.ofName ⟨"g", 1, some "M"⟩) Details.empty

def importedToken : RangedToken where
  range := ⟨0, 2, 1⟩
  kind := .var
  modifiers := .none
  definedIn := some "M"

def askImported : Message :=
  .request (.delta "0") (pairBuild [letterAt 0 "f", importedLetter] 1) ⟨"a:b"⟩

def importedName : TokenDelta where
  resultId := some "1"
  edits := [⟨5, 0, some [⟨0, 2, 1, 17, 512⟩]⟩]

/-- A name of a listed module is inserted by an edit. Its kind has a type that the legend does not
have, so it is a variable, and its one modifier is that of a default library. -/
theorem served_tokens_in_legend_fallback :
    let reply := (Server.fresh.after [glyphStart, askAll]).react askImported
    reply.answer = .delta (.ok (.delta importedName)) ∧
      WireToken.InLegend ⟨0, 2, 1, 17, 512⟩ ∧
      (Server.fresh.react glyphStart).answer = .greeting Server.greeting ∧
      Server.greeting.AnnouncesLegend ∧
      glyphSettings.typeOf .var = "glyph" ∧
      Legend.types[((Encoding.ofSettings glyphSettings).typeIndex .var).toNat]? = some "variable" ∧
      ∃ name, Legend.modifiers[9]? = some name ∧ importedToken.ShownWith glyphSettings name := by
  intro reply
  let server := Server.fresh.after [glyphStart]
  have parsed : UrlReading.parse "a:b" = .ok ⟨"a:b"⟩ := rfl
  have answered : reply.answer = .delta (.ok (.delta importedName)) := by
    have settled : server.session = Session.fresh := rfl
    have resolved : server.resolved = Resolved.ofSettings glyphSettings :=
      Server.fresh_after_resolved [glyphStart]
    have computed : (server.session.memo.tokens (pairBuild [letterAt 0 "f"] 0) ⟨"a:b"⟩).output =
        .ok ⟨[Encoding.variableAt ⟨0, 0, 1⟩], none⟩ := by
      rw [settled]
      decide +kernel
    have encoded : server.resolved.encoding.encode [Encoding.variableAt ⟨0, 0, 1⟩] =
        .ok [⟨0, 0, 1, 17, 0⟩] := by
      rw [resolved]
      rfl
    have computedNext :
        ((Session.fresh.memo.tokens (pairBuild [letterAt 0 "f"] 0) ⟨"a:b"⟩).memo.tokens
          (pairBuild [letterAt 0 "f", importedLetter] 1) ⟨"a:b"⟩).output =
        .ok ⟨[Encoding.variableAt ⟨0, 0, 1⟩, importedToken], none⟩ := by
      decide +kernel
    have encodedNext : server.resolved.encoding.encode
        [Encoding.variableAt ⟨0, 0, 1⟩, importedToken] =
          .ok [⟨0, 0, 1, 17, 0⟩, ⟨0, 2, 1, 17, 512⟩] := by
      rw [resolved]
      rfl
    show ((server.react askAll).server.react askImported).answer = _
    rw [askAll, server.react_request _ _ parsed,
      server.session.serve_of_encode_ok _ computed encoded, settled, askImported,
      Server.react_request _ _ _ parsed, Session.serve_of_encode_ok _ _ computedNext encodedNext]
    refine congrArg Answer.delta ?_
    decide +kernel
  obtain ⟨runs, typeNames, modifierNames⟩ := served_tokens_in_legend
  have run := runs [glyphStart, askAll, askImported]
  have greets : (Server.fresh.react glyphStart).answer = .greeting Server.greeting := rfl
  have announced := (run ⟨glyphStart, Server.fresh.react glyphStart⟩ List.mem_cons_self).2 _ greets
  have isReply : (⟨askImported, reply⟩ : Exchange) ∈
      Server.fresh.trace [glyphStart, askAll, askImported] :=
    List.mem_cons_of_mem _ (List.mem_cons_of_mem _ List.mem_cons_self)
  have inserted : (⟨0, 2, 1, 17, 512⟩ : WireToken) ∈ reply.answer.wireTokens := by
    rw [answered]
    exact List.mem_cons_self
  exact ⟨answered, ((run _ isReply).1 _ inserted).1, greets, announced, rfl,
    typeNames glyphSettings .var, (modifierNames glyphSettings importedToken 9).mp rfl⟩

end Highlight
