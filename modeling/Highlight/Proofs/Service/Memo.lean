import Highlight.Proofs.Service.Run

/-!
Contract: what the rule remembers can be served.

Owns: everything that asking for a document's tokens can come to, and the
invariant that the memo remembers only outputs that can be served under every
encoding: tokens that the encoder takes, or a failure that an editor sees as an
empty answer. An interruption is not remembered, so the invariant holds along
every run, whatever the suppliers do.

Does not own: whether a supplier breaks off at the moment of a request.
-/

set_option autoImplicit false

namespace Highlight

/-- The output has tokens that every encoding takes, or a failure that is shown as an empty
answer. -/
def RuleOutput.Servable (output : RuleOutput) : Prop :=
  match output with
  | .ok document => ∀ encoding : Encoding, ∃ data, encoding.encode document.tokens = .ok data
  | .error failure => failure.isRecoverable = true

/-- Whatever the tree, the names and the text are, the encoder takes the tokens of a document. -/
theorem servable_computeTokens
    (url : Url)
    (tree : AnnotatedTree)
    (names : NameMap)
    (document : Option Document) :
    RuleOutput.Servable (computeTokens url tree names document) := by
  rw [computeTokens]
  cases tree.file? url.fileKey with
  | none => rfl
  | some root =>
      cases document with
      | none => rfl
      | some present =>
          intro encoding
          exact encoding.exists_encode_normalize_ok (root.rawTokens names present.text.toList)

/-- The supplier breaks off over one of the artifacts of a document. -/
def Supplier.BreaksAt (supplier : Supplier) (url : Url) (cause : String) : Prop :=
  supplier.tree url = .broken cause ∨ supplier.names url = .broken cause ∨
    supplier.document url = .broken cause

namespace Memo

/-- Asking for the tokens of a document is interrupted by a supplier that breaks off, ends for want
of the tree or the names, finds the output of the same fingerprints, or computes one. -/
theorem tokens_cases (memo : Memo) (supplier : Supplier) (url : Url) :
    (∃ cause asked events, supplier.BreaksAt url cause ∧
        memo.tokens supplier url = memo.interrupt cause asked events) ∨
      (∃ asked failure,
        (supplier.tree url = .absent ∧ failure = .noTree url.href ∨
          (∃ tree, supplier.tree url = .present tree) ∧ supplier.names url = .absent ∧
            failure = .noNames url.href) ∧
        memo.tokens supplier url = memo.refuse url asked failure) ∨
      ∃ tree names, supplier.tree url = .present tree ∧ supplier.names url = .present names ∧
        ((∃ output, memo.find? url ⟨tree.fingerprint, names.fingerprint⟩ = some output ∧
            memo.tokens supplier url =
              ⟨output, true, [.tree, .names], [.reusing url], memo⟩) ∨
          (memo.find? url ⟨tree.fingerprint, names.fingerprint⟩ = none ∧
            ∃ document,
              (supplier.document url = .absent ∧ document = none ∨
                ∃ present, supplier.document url = .present present ∧ document = some present) ∧
              memo.tokens supplier url = memo.compute url tree names document)) := by
  rw [tokens]
  simp only [Supplier.BreaksAt]
  cases supplier.tree url with
  | broken cause => exact Or.inl ⟨cause, _, _, Or.inl rfl, rfl⟩
  | absent => exact Or.inr (Or.inl ⟨_, _, Or.inl ⟨rfl, rfl⟩, rfl⟩)
  | present tree =>
      cases supplier.names url with
      | broken cause => exact Or.inl ⟨cause, _, _, Or.inr (Or.inl rfl), rfl⟩
      | absent => exact Or.inr (Or.inl ⟨_, _, Or.inr ⟨⟨tree, rfl⟩, rfl, rfl⟩, rfl⟩)
      | present names =>
          cases found : memo.find? url ⟨tree.fingerprint, names.fingerprint⟩ with
          | some output =>
              refine Or.inr (Or.inr ⟨tree, names, rfl, rfl, Or.inl ⟨output, found, ?_⟩⟩)
              simp only [found]
          | none =>
              cases supplier.document url with
              | broken cause =>
                  refine Or.inl ⟨cause, [.tree, .names, .document],
                    [.computing url tree.fingerprint names.fingerprint], Or.inr (Or.inr rfl), ?_⟩
                  simp only [found]
              | absent =>
                  refine Or.inr (Or.inr ⟨tree, names, rfl, rfl, Or.inr ⟨found, none, ?_, ?_⟩⟩)
                  · exact Or.inl ⟨rfl, rfl⟩
                  · simp only [found]
              | present document =>
                  refine Or.inr (Or.inr ⟨tree, names, rfl, rfl, Or.inr ⟨found, document, ?_, ?_⟩⟩)
                  · exact Or.inr ⟨document, rfl, rfl⟩
                  · simp only [found]

def Servable (memo : Memo) : Prop :=
  ∀ (url : Url) (entry : MemoEntry), memo.entries[url]? = some entry →
    RuleOutput.Servable entry.output

theorem servable_empty : empty.Servable := by
  intro url entry found
  rw [empty, Std.ExtTreeMap.getElem?_empty] at found
  cases found

namespace Servable

variable {memo : Memo} (servable : memo.Servable)
include servable

theorem invalidate (url : Url) : (memo.invalidate url).Servable := by
  intro other entry found
  rw [Memo.invalidate, Std.ExtTreeMap.getElem?_erase] at found
  split at found
  · cases found
  · exact servable other entry found

theorem remember
    (url : Url)
    (fingerprints : Fingerprints)
    {output : RuleOutput}
    (outputServable : output.Servable) :
    (memo.remember url fingerprints output).Servable := by
  rw [Memo.remember]
  split
  · intro other entry found
    rw [Std.ExtTreeMap.getElem?_insert] at found
    split at found
    · rw [← Option.some.inj found]
      exact outputServable
    · exact servable other entry found
  · exact servable

theorem of_find?
    {url : Url}
    {fingerprints : Fingerprints}
    {output : RuleOutput}
    (found : memo.find? url fingerprints = some output) :
    output.Servable := by
  rw [find?] at found
  split at found
  next entry held =>
    split at found
    · rw [← Option.some.inj found]
      exact servable url entry held
    · cases found
  next => cases found

/-- The memo stays servable, and so is the output, unless the supplier broke off. -/
theorem tokens (supplier : Supplier) (url : Url) :
    (memo.tokens supplier url).memo.Servable ∧
      ((memo.tokens supplier url).output.Servable ∨
        ∃ cause, (memo.tokens supplier url).output = .error (.internal (.interrupted cause)) ∧
          supplier.BreaksAt url cause) := by
  rcases memo.tokens_cases supplier url with
    ⟨cause, asked, events, breaks, interrupted⟩ | ⟨asked, failure, missing, refused⟩ |
      ⟨tree, names, -, -, ⟨output, found, reused⟩ | ⟨-, document, -, computed⟩⟩
  · rw [interrupted]
    exact ⟨servable, Or.inr ⟨cause, rfl, breaks⟩⟩
  · rw [refused]
    refine ⟨servable, Or.inl ?_⟩
    rcases missing with ⟨-, rfl⟩ | ⟨-, -, rfl⟩ <;> rfl
  · rw [reused]
    exact ⟨servable, Or.inl (servable.of_find? found)⟩
  · rw [computed]
    have outputServable := servable_computeTokens url tree.content names.content document
    exact ⟨servable.remember url _ outputServable, Or.inl outputServable⟩

end Servable

end Memo

namespace Server

variable [UrlReading]

/-- A message leaves the memo alone, forgets a document, or asks for the tokens of one. -/
theorem react_memo_cases (server : Server) (message : Message) :
    (server.react message).server.session.memo = server.session.memo ∨
      (∃ url, (server.react message).server.session.memo = server.session.memo.invalidate url) ∨
      ∃ form supplier uri url, message = .request form supplier uri ∧
        UrlReading.parse uri.text = .ok url ∧
        (server.react message).server.session.memo =
          (server.session.memo.tokens supplier url).memo := by
  cases message with
  | start options => exact Or.inl (congrArg Session.memo (start_session server options))
  | configure payload =>
      exact Or.inl (congrArg Session.memo (applySettings_session server .configuration payload))
  | opened uri version => exact Or.inl rfl
  | closed uri =>
      cases parsed : UrlReading.parse uri.text with
      | error reason =>
          exact Or.inl (congrArg (·.session.memo) (server.react_closed_invalid parsed))
      | ok url =>
          exact Or.inr (Or.inl ⟨url, congrArg (·.session.memo) (server.react_closed parsed)⟩)
  | request form supplier uri =>
      cases parsed : UrlReading.parse uri.text with
      | error reason =>
          have same := (server.react_request_invalid form supplier parsed).2
          exact Or.inl (congrArg (·.session.memo) same)
      | ok url =>
          refine Or.inr (Or.inr ⟨form, supplier, uri, url, rfl, parsed, ?_⟩)
          rw [server.react_request form supplier parsed]
          exact Session.serve_memo _ _ _ _
  | shutdown => exact Or.inl rfl

theorem servable_react
    {server : Server}
    (servable : server.session.memo.Servable)
    (message : Message) :
    (server.react message).server.session.memo.Servable := by
  rcases server.react_memo_cases message with
    same | ⟨url, forgotten⟩ | ⟨form, supplier, uri, url, rfl, -, computed⟩
  · rw [same]
    exact servable
  · rw [forgotten]
    exact servable.invalidate url
  · rw [computed]
    exact (servable.tokens supplier url).1

/-- Runs keep a memo that can be served. -/
theorem servable_after
    {server : Server}
    (servable : server.session.memo.Servable)
    (messages : List Message) :
    (server.after messages).session.memo.Servable := by
  induction messages generalizing server with
  | nil => exact servable
  | cons message rest inductionHypothesis =>
      rw [after]
      exact inductionHypothesis (servable_react servable message)

/-- In a run of a fresh server, the encoder takes every token list that the rule gives. -/
theorem exists_encode_ok_of_fresh_after
    (messages : List Message)
    {supplier : Supplier}
    {url : Url}
    {document : DocumentTokens}
    (computed : ((Server.fresh.after messages).session.memo.tokens supplier url).output =
      .ok document)
    (encoding : Encoding) :
    ∃ data, encoding.encode document.tokens = .ok data := by
  have servable : (Server.fresh.after messages).session.memo.Servable :=
    servable_after Memo.servable_empty messages
  rcases (servable.tokens supplier url).2 with outputServable | ⟨_, interrupted, -⟩
  · rw [computed] at outputServable
    exact outputServable encoding
  · cases computed.symm.trans interrupted

end Server

end Highlight
