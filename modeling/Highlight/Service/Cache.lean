import Highlight.Token.Wire
import Highlight.Url.Basic

/-!
Contract: the token arrays served last.

Owns: the cache of one token array per document, with the version of the text it
was computed from. An array of an older version does not replace one of a newer
version; where a version is not known, the later write wins. A write that
replaces an array hands that array back.
-/

set_option autoImplicit false

namespace Highlight

structure CacheEntry where
  tokens : TokenArray
  version : Option Int
  deriving DecidableEq, Repr

/-- What came of a write: the array it replaced, if any, or the newer version that it found. -/
inductive StoreOutcome where
  | stored (previous : Option TokenArray)
  | superseded (version : Int)
  deriving DecidableEq, Repr

/-- The token arrays served last, by document. -/
structure Cache where
  entries : Std.ExtTreeMap Url CacheEntry
  deriving DecidableEq

/-- The version held, when it is newer than the one that comes in. -/
def newerVersion? (held incoming : Option Int) : Option Int :=
  match held, incoming with
  | some held, some incoming => if incoming < held then some held else none
  | _, _ => none

namespace Cache

def empty : Cache where
  entries := ∅

/-- Writes the array of a document, unless that of a newer version is held. -/
def store (cache : Cache) (url : Url) (tokens : TokenArray) (version : Option Int) :
    StoreOutcome × Cache :=
  let written : Cache := ⟨cache.entries.insert url ⟨tokens, version⟩⟩
  match cache.entries[url]? with
  | none => (.stored none, written)
  | some held =>
      match newerVersion? held.version version with
      | some newer => (.superseded newer, cache)
      | none => (.stored (some held.tokens), written)

def get? (cache : Cache) (url : Url) : Option TokenArray :=
  cache.entries[url]?.map CacheEntry.tokens

def remove (cache : Cache) (url : Url) : Cache :=
  ⟨cache.entries.erase url⟩

def size (cache : Cache) : Nat :=
  cache.entries.size

def isEmpty (cache : Cache) : Bool :=
  cache.entries.isEmpty

end Cache

end Highlight
