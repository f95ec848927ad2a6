import Highlight.Proofs.Service.Memo
import Highlight.Proofs.Token.Collect

/-!
Contract: every request is answered.

Owns: the suppliers that do not break off and whose texts have lines that can be
counted with 32 bits, and the answers over them: each request has one of its own
form, and no failure.
-/

set_option autoImplicit false

namespace Highlight

open Highlight.Text

/-- The supplier has or has not what is asked for a document, but does not break off, and the
lines of the text are of a length that 32 bits can count. -/
structure Supplier.SteadyAt (supplier : Supplier) (url : Url) : Prop where
  tree : ∀ cause, supplier.tree url ≠ .broken cause
  names : ∀ cause, supplier.names url ≠ .broken cause
  document : ∀ cause, supplier.document url ≠ .broken cause
  linesFit : ∀ document, supplier.document url = .present document →
    (LineTable.ofText document.text.toList).LinesFit

/-- A request goes with a supplier that is steady at the document it asks for. -/
def Message.Steady [UrlReading] : Message → Prop
  | .request _ supplier uri => ∀ url, UrlReading.parse uri.text = .ok url → supplier.SteadyAt url
  | _ => True

/-- At a steady document, a memo of servable outputs gives one. -/
theorem Memo.Servable.output_of_steady
    {memo : Memo}
    (servable : memo.Servable)
    {supplier : Supplier}
    {url : Url}
    (steady : supplier.SteadyAt url) :
    (memo.tokens supplier url).output.Servable := by
  rcases (servable.tokens supplier url).2 with outputServable | ⟨cause, -, breaks⟩
  · exact outputServable
  · rcases breaks with treeBroken | namesBroken | documentBroken
    · exact absurd treeBroken (steady.tree cause)
    · exact absurd namesBroken (steady.names cause)
    · exact absurd documentBroken (steady.document cause)

/-- A session whose memo can be served answers a request at a steady document. -/
theorem Session.exists_serve_answer_ok
    {session : Session}
    (servable : session.memo.Servable)
    {supplier : Supplier}
    {url : Url}
    (steady : supplier.SteadyAt url)
    (encoding : Encoding) :
    ∃ served, (session.serve supplier encoding url).answer = .ok served := by
  have outputServable := servable.output_of_steady steady
  rcases session.serve_cases supplier encoding url with
    ⟨_, -, -, served⟩ | ⟨failure, outputEq, unrecoverable, -⟩ |
      ⟨document, fault, outputEq, refused, -⟩ | ⟨_, _, -, -, served⟩
  · exact ⟨_, congrArg Reply.answer served⟩
  · rw [outputEq] at outputServable
    cases outputServable.symm.trans unrecoverable
  · rw [outputEq] at outputServable
    obtain ⟨data, encoded⟩ := outputServable encoding
    cases encoded.symm.trans refused
  · exact ⟨_, congrArg Reply.answer served⟩

namespace Server

variable [UrlReading]

/-- The answer to a request is of the form that was asked for and no failure. -/
theorem exists_react_answer_ok
    {server : Server}
    (servable : server.session.memo.Servable)
    {form : RequestForm}
    {supplier : Supplier}
    {uri : Uri}
    (steady : (Message.request form supplier uri).Steady) :
    ∃ served, (server.react (.request form supplier uri)).answer = form.answer (.ok served) := by
  cases parsed : UrlReading.parse uri.text with
  | error reason => exact ⟨_, (server.react_request_invalid form supplier parsed).1⟩
  | ok url =>
      obtain ⟨served, answered⟩ := Session.exists_serve_answer_ok servable (steady url parsed)
        server.resolved.encoding
      refine ⟨served, ?_⟩
      rw [server.react_request form supplier parsed, answered]

end Server

/-- Over texts whose lines can be counted with 32 bits, the tokens of a document are not empty and
each precedes every later one, so that every encoding takes them. In every run over such texts in
which no supplier breaks off, every request has an answer of the form asked for, and no failure. -/
theorem tokens_accepted_and_requests_answered [UrlReading] :
    (∀ (root : Node) (names : NameMap) (text : List Char), (LineTable.ofText text).LinesFit →
      (∀ token ∈ root.tokens names text, 1 ≤ token.range.length.toNat) ∧
        RangedToken.InOrder (root.tokens names text) ∧
        ∀ encoding : Encoding, ∃ data, encoding.encode (root.tokens names text) = .ok data) ∧
      ∀ messages : List Message, (∀ message ∈ messages, message.Steady) →
        ∀ exchange ∈ Server.fresh.trace messages, ∀ (form : RequestForm) (supplier : Supplier)
          (uri : Uri), exchange.message = .request form supplier uri →
            ∃ served, exchange.reply.answer = form.answer (.ok served) := by
  refine ⟨fun root names text linesFit => ?_, fun messages steady exchange member => ?_⟩
  · exact ⟨tokens_length_pos linesFit, tokens_inOrder linesFit,
      fun encoding => encoding.exists_encode_normalize_ok (root.rawTokens names text)⟩
  · rintro form supplier uri isRequest
    obtain ⟨earlier, later, split⟩ := List.append_of_mem member
    obtain ⟨before, message, rest, rfl, -, rfl⟩ := Server.exists_of_trace_eq_append_cons split
    obtain rfl : message = .request form supplier uri := isRequest
    have servable : (Server.fresh.after before).session.memo.Servable :=
      Server.servable_after Memo.servable_empty before
    exact Server.exists_react_answer_ok servable
      (steady _ (List.mem_append_right _ List.mem_cons_self))

def wrappedBuild (document : Supply Document) : Supplier where
  tree _ := .present ⟨AnnotatedTree.empty.addFile "b" wrappedNode, 0⟩
  names _ := .present ⟨NameMap.empty, 0⟩
  document _ := document

def askWhileOpen : Message :=
  .request .full (wrappedBuild (.present ⟨String.ofList wrappedText, some 1⟩)) ⟨"a:b"⟩

/-- The edits since `askWhileOpen`, asked for when the text is gone: they come from the memo. -/
def askOnceGone : Message :=
  .request (.delta "0") (wrappedBuild .absent) ⟨"a:b"⟩

theorem tokens_accepted_and_requests_answered_wrapped :
    (LineTable.ofText wrappedText).LinesFit ∧
      RangedToken.InOrder (wrappedNode.tokens NameMap.empty wrappedText) ∧
      (∀ message ∈ [askWhileOpen, askOnceGone], message.Steady) ∧
      ∃ served, ((Server.fresh.after [askWhileOpen]).react askOnceGone).answer =
        (RequestForm.delta "0").answer (.ok served) := by
  have linesFit : (LineTable.ofText wrappedText).LinesFit :=
    LineTable.linesFit_of_unitLength_lt (by decide)
  have steady : ∀ message ∈ [askWhileOpen, askOnceGone], message.Steady := by
    have openSteady : askWhileOpen.Steady := by
      intro url _
      refine ⟨nofun, nofun, nofun, fun document isPresent => ?_⟩
      obtain rfl := Supply.present.inj isPresent
      rwa [String.toList_ofList]
    have goneSteady : askOnceGone.Steady := fun url _ => ⟨nofun, nofun, nofun, nofun⟩
    simp [openSteady, goneSteady]
  have accepted := tokens_accepted_and_requests_answered.1 wrappedNode NameMap.empty wrappedText
    linesFit
  have answered := tokens_accepted_and_requests_answered.2 [askWhileOpen, askOnceGone] steady
    ⟨askOnceGone, (Server.fresh.after [askWhileOpen]).react askOnceGone⟩
    (List.mem_append_right (Server.fresh.trace [askWhileOpen]) List.mem_cons_self)
    _ _ _ rfl
  exact ⟨linesFit, accepted.2.1, steady, answered⟩

end Highlight
