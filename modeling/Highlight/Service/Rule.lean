import Highlight.Service.Artifacts
import Highlight.Service.Event
import Highlight.Token.Collect

/-!
Contract: the tokens of a document, computed once for each pair of fingerprints.

Owns: the computation of a document's tokens from its artifacts, and the memo of
the last output of each document. As long as the fingerprints of tree and names
stay the same, the output is reused without a look at the text. A missing text
is not remembered: the document may be opened while tree and names stay.
-/

set_option autoImplicit false

namespace Highlight

structure Fingerprints where
  tree : UInt64
  names : UInt64
  deriving DecidableEq, Repr

structure DocumentTokens where
  tokens : List RangedToken
  version : Option Int
  deriving DecidableEq, Repr

abbrev RuleOutput := Except Failure DocumentTokens

/-- Computes the tokens of a document from its artifacts. -/
def computeTokens (url : Url) (tree : AnnotatedTree) (names : NameMap)
    (document : Option Document) : RuleOutput :=
  match tree.file? url.fileKey with
  | none => .error (.noTree url.href)
  | some root =>
      match document with
      | none => .error (.noText url.href)
      | some document =>
          .ok ⟨root.tokens names document.text.toList, document.version⟩

structure MemoEntry where
  fingerprints : Fingerprints
  output : RuleOutput

structure Memo where
  entries : Std.ExtTreeMap Url MemoEntry

structure RuleStep where
  output : RuleOutput
  reused : Bool
  asked : List Artifact
  events : List Event
  memo : Memo

def RuleOutput.report (url : Url) (output : RuleOutput) : List Event :=
  match output with
  | .ok _ => []
  | .error failure =>
      if failure.isRecoverable then [.noTokens url failure] else [.ruleFailed url failure]

/-- The output may be remembered. -/
def RuleOutput.isLasting (output : RuleOutput) : Bool :=
  match output with
  | .ok _ => true
  | .error failure => !failure.isNoText

namespace Memo

def empty : Memo where
  entries := ∅

/-- The output remembered for a document under given fingerprints. -/
def find? (memo : Memo) (url : Url) (fingerprints : Fingerprints) : Option RuleOutput :=
  match memo.entries[url]? with
  | some entry => if entry.fingerprints = fingerprints then some entry.output else none
  | none => none

/-- Remembers an output, unless it is due to a missing text. -/
def remember (memo : Memo) (url : Url) (fingerprints : Fingerprints) (output : RuleOutput) : Memo :=
  if output.isLasting then ⟨memo.entries.insert url ⟨fingerprints, output⟩⟩ else memo

def invalidate (memo : Memo) (url : Url) : Memo :=
  ⟨memo.entries.erase url⟩

/-- A request that ends with a failure before anything is computed. -/
def refuse (memo : Memo) (url : Url) (asked : List Artifact) (failure : Failure) : RuleStep where
  output := .error failure
  reused := false
  asked := asked
  events := RuleOutput.report url (.error failure)
  memo := memo

/-- A request during which the supplier broke off. -/
def interrupt (memo : Memo) (cause : String) (asked : List Artifact) (events : List Event) :
    RuleStep where
  output := .error (.internal (.interrupted cause))
  reused := false
  asked := asked
  events := events
  memo := memo

/-- Computes the tokens of a document from its text and two snapshots, and remembers them. -/
def compute (memo : Memo) (url : Url) (tree : Snapshot AnnotatedTree) (names : Snapshot NameMap)
    (document : Option Document) : RuleStep :=
  let output := computeTokens url tree.content names.content document
  { output := output
    reused := false
    asked := [.tree, .names, .document]
    events := .computing url tree.fingerprint names.fingerprint :: RuleOutput.report url output
    memo := memo.remember url ⟨tree.fingerprint, names.fingerprint⟩ output }

def tokens (memo : Memo) (supplier : Supplier) (url : Url) : RuleStep :=
  match supplier.tree url with
  | .broken cause => memo.interrupt cause [.tree] []
  | .absent => memo.refuse url [.tree] (.noTree url.href)
  | .present tree =>
      match supplier.names url with
      | .broken cause => memo.interrupt cause [.tree, .names] []
      | .absent => memo.refuse url [.tree, .names] (.noNames url.href)
      | .present names =>
          match memo.find? url ⟨tree.fingerprint, names.fingerprint⟩ with
          | some output =>
              { output := output
                reused := true
                asked := [.tree, .names]
                events := [.reusing url]
                memo := memo }
          | none =>
              match supplier.document url with
              | .broken cause =>
                  memo.interrupt cause [.tree, .names, .document]
                    [.computing url tree.fingerprint names.fingerprint]
              | .absent => memo.compute url tree names none
              | .present document => memo.compute url tree names (some document)

end Memo

end Highlight
