import Highlight.Token.Kind

/-!
Contract: the legend that is announced to editors.

Owns: the names of token types and modifiers in the order in which numbers on
the wire refer to them, the index of a type, the bit of a modifier, and the type
that each kind is shown as by default.
-/

set_option autoImplicit false

namespace Highlight

namespace Legend

/-- Names of the token types; a token's type is an index into this list. -/
def types : List String :=
  ["comment", "keyword", "string", "number", "regexp", "operator", "namespace", "type", "struct",
    "class", "interface", "enum", "enumMember", "typeParameter", "function", "method", "macro",
    "variable", "parameter", "property", "event", "modifier", "decorator"]

/-- Names of the modifiers; a token's modifiers are bits at indices into this list. -/
def modifiers : List String :=
  ["declaration", "definition", "readonly", "static", "deprecated", "abstract", "async",
    "modification", "documentation", "defaultLibrary"]

def typeIndex? (name : String) : Option UInt32 :=
  (types.idxOf? name).map UInt32.ofNat

/-- Bit of a modifier; a name that is no modifier has none. -/
def modifierBit (name : String) : UInt32 :=
  match modifiers.idxOf? name with
  | some index => 1 <<< UInt32.ofNat index
  | none => 0

end Legend

/-- The token type that a kind is shown as when nothing else is configured. -/
def TokenKind.defaultType : TokenKind → String
  | .var => "variable"
  | .function => "function"
  | .dataConstructor => "enumMember"
  | .typeVariable => "typeParameter"
  | .classMethod => "method"
  | .patternSynonym => "macro"
  | .typeConstructor => "enum"
  | .typeClass => "class"
  | .typeSynonym => "type"
  | .typeFamily => "interface"
  | .recordField => "property"
  | .operator => "operator"
  | .moduleName => "namespace"

end Highlight
