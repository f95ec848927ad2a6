import Highlight.Token.Encoding

/-!
Contract: tokens as they go over the wire.

Owns: the five numbers of a token, relative to the token before it, token arrays
with the id under which an editor can refer to them, and the encoding of a token
list. A list that is not sorted, or in which tokens overlap, has no encoding.
-/

set_option autoImplicit false

namespace Highlight

/-- A token relative to the one before it: lines down, columns from the start of that token if it
is on the same line, length, type index and modifier bits. -/
structure WireToken where
  deltaLine : UInt32
  deltaStart : UInt32
  length : UInt32
  typeIndex : UInt32
  modifierBits : UInt32
  deriving DecidableEq, Repr

namespace WireToken

def width : Nat := 5

def words (token : WireToken) : List UInt32 :=
  [token.deltaLine, token.deltaStart, token.length, token.typeIndex, token.modifierBits]

def flatten (tokens : List WireToken) : List UInt32 :=
  tokens.flatMap words

/-- The tokens of a list of numbers, if their count is a multiple of the width. -/
def ofWords? : List UInt32 → Option (List WireToken)
  | [] => some []
  | deltaLine :: deltaStart :: length :: typeIndex :: modifierBits :: rest =>
      (ofWords? rest).map (⟨deltaLine, deltaStart, length, typeIndex, modifierBits⟩ :: ·)
  | _ => none

end WireToken

/-- Encoded tokens, and the id under which they were served. -/
structure TokenArray where
  resultId : Option String
  data : List WireToken
  deriving DecidableEq, Repr

def TokenArray.empty : TokenArray where
  resultId := none
  data := []

structure OutOfOrder where
  line : UInt32
  start : UInt32
  deriving DecidableEq, Repr

namespace Encoding

/-- The range does not come after an earlier one: it is on an earlier line, or on the same line
and starts before that one stops. -/
def isOutOfOrder (last : Option TokenRange) (range : TokenRange) : Bool :=
  last.any fun earlier => decide (range.line < earlier.line) || range.startsInside earlier

def wire (encoding : Encoding) (last : Option TokenRange) (token : RangedToken) : WireToken :=
  let earlier := last.getD ⟨0, 0, 0⟩
  let deltaLine := token.range.line - earlier.line
  { deltaLine := deltaLine
    deltaStart :=
      if deltaLine = 0 then token.range.start - earlier.start else token.range.start
    length := token.range.length
    typeIndex := encoding.typeIndex token.kind
    modifierBits := encoding.modifierBits token }

def encodeAfter (encoding : Encoding) (last : Option TokenRange) :
    List RangedToken → Except OutOfOrder (List WireToken)
  | [] => .ok []
  | token :: rest =>
      if isOutOfOrder last token.range then .error ⟨token.range.line, token.range.start⟩
      else
        match encodeAfter encoding (some token.range) rest with
        | .ok data => .ok (encoding.wire last token :: data)
        | .error fault => .error fault

/-- Encodes a token list, or names the first token that is out of order. -/
def encode (encoding : Encoding) (tokens : List RangedToken) :
    Except OutOfOrder (List WireToken) :=
  encodeAfter encoding none tokens

end Encoding

end Highlight
