import Highlight.Settings.Basic
import Highlight.Token.Ranged

/-!
Contract: the numbers that stand for kinds and modifiers on the wire.

Owns: settings resolved against the legend, once for all kinds, into a table of
type indices. A kind whose configured type is not in the legend is shown as its
default type. A name from a default library has that modifier besides its own.
-/

set_option autoImplicit false

namespace Highlight

structure UnknownType where
  configured : String
  kind : TokenKind
  deriving DecidableEq, Repr

/-- Type indices by kind, and the modules that are default libraries. -/
structure Encoding where
  typeIndices : KindTable UInt32
  libraryModules : List String

namespace Encoding

def typeIndex (encoding : Encoding) (kind : TokenKind) : UInt32 :=
  encoding.typeIndices.get kind

def indexOf (settings : Settings) (kind : TokenKind) : UInt32 :=
  match Legend.typeIndex? (settings.typeOf kind) with
  | some index => index
  | none => (Legend.typeIndex? kind.defaultType).getD 0

def ofSettings (settings : Settings) : Encoding where
  typeIndices := .filled 0 (indexOf settings)
  libraryModules := settings.libraryModules

@[simp] theorem typeIndex_ofSettings (settings : Settings) (kind : TokenKind) :
    (ofSettings settings).typeIndex kind = indexOf settings kind := by
  rw [typeIndex, ofSettings, KindTable.get_filled]

def default : Encoding :=
  ofSettings Settings.default

/-- The modifiers of a token, its module taken into account. -/
def modifiersOf (encoding : Encoding) (token : RangedToken) : Modifiers :=
  if token.definedIn.any encoding.libraryModules.contains then
    token.modifiers.union Modifiers.defaultLibraryOnly
  else
    token.modifiers

def modifierBits (encoding : Encoding) (token : RangedToken) : UInt32 :=
  let modifiers := encoding.modifiersOf token
  let declaration := if modifiers.declaration then Legend.modifierBit "declaration" else 0
  let library := if modifiers.defaultLibrary then Legend.modifierBit "defaultLibrary" else 0
  declaration ||| library

end Encoding

/-- The kinds whose configured type the legend does not have, in order. -/
def Settings.unknownTypes (settings : Settings) : List UnknownType :=
  TokenKind.all.filterMap fun kind =>
    match Legend.typeIndex? (settings.typeOf kind) with
    | some _ => none
    | none => some ⟨settings.typeOf kind, kind⟩

end Highlight
