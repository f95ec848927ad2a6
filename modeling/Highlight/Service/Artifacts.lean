import Highlight.Source.Entity
import Highlight.Source.Tree
import Highlight.Url.Basic

/-!
Contract: what the compiler and the editor supply.

Owns: the artifacts that tokens are computed from, with the fingerprint of the
build that made them, and the supplier that is asked for them. A supplier may
have an artifact, not have it, or break off.
-/

set_option autoImplicit false

namespace Highlight

/-- An artifact with the fingerprint of the build that made it. -/
structure Snapshot (α : Type) where
  content : α
  fingerprint : UInt64

/-- The text of a document as it stands in the editor, with its version if known. -/
structure Document where
  text : String
  version : Option Int
  deriving DecidableEq, Repr

/-- What a supplier answers. One that breaks off leaves the cause, which may be empty. -/
inductive Supply (α : Type) where
  | present (artifact : α)
  | absent
  | broken (cause : String := "")

structure Supplier where
  tree : Url → Supply (Snapshot AnnotatedTree)
  names : Url → Supply (Snapshot NameMap)
  document : Url → Supply Document

inductive Artifact where
  | tree
  | names
  | document
  deriving DecidableEq, Repr

end Highlight
