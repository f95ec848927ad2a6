import Highlight.Token.Wire

/-!
Contract: differences between token arrays.

Owns: edits on token arrays, their application, the single edit that turns one
array into another, and the choice between edits and a full array. Places and
counts in an edit are in numbers, five to a token; an edit that does not fall on
token boundaries is rounded down, and one that runs past the end is clamped.
-/

set_option autoImplicit false

namespace Highlight

/-- Deletes numbers from a place on and inserts tokens there. -/
structure TokenEdit where
  start : UInt32
  deleteCount : UInt32
  data : Option (List WireToken)
  deriving DecidableEq, Repr

/-- Edits that turn an array served before into a new one. -/
structure TokenDelta where
  resultId : Option String
  edits : List TokenEdit
  deriving DecidableEq, Repr

inductive TokenResponse where
  | full (tokens : TokenArray)
  | delta (delta : TokenDelta)
  deriving DecidableEq, Repr

def commonStart : List WireToken → List WireToken → Nat
  | left :: leftRest, right :: rightRest =>
      if left = right then commonStart leftRest rightRest + 1 else 0
  | _, _ => 0

def TokenEdit.apply (tokens : List WireToken) (edit : TokenEdit) : List WireToken :=
  let start := min (edit.start.toNat / WireToken.width) tokens.length
  let stop := min (start + edit.deleteCount.toNat / WireToken.width) tokens.length
  tokens.take start ++ edit.data.getD [] ++ tokens.drop stop

def TokenEdit.applyAll (edits : List TokenEdit) (tokens : List WireToken) : List WireToken :=
  edits.foldl TokenEdit.apply tokens

namespace TokenArray

/-- The edits that turn one array into another: none if they are equal, and otherwise one that
replaces what stands between their common start and their common end. -/
def delta (previous current : TokenArray) : TokenDelta :=
  let start := commonStart previous.data current.data
  if start = previous.data.length ∧ start = current.data.length then
    ⟨current.resultId, []⟩
  else
    let oldRest := previous.data.drop start
    let newRest := current.data.drop start
    let ending := commonStart oldRest.reverse newRest.reverse
    let edit : TokenEdit :=
      { start := UInt32.ofNat (start * WireToken.width)
        deleteCount := UInt32.ofNat ((oldRest.length - ending) * WireToken.width)
        data := some (newRest.take (newRest.length - ending)) }
    ⟨current.resultId, [edit]⟩

/-- Edits if the previous array is the one that the client holds, and else the full array. -/
def deltaOrFull (previous current : TokenArray) (held : String) : TokenResponse :=
  if previous.resultId = some held then .delta (previous.delta current) else .full current

end TokenArray

end Highlight
