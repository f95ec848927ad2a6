import Highlight.Token.Kind
import Highlight.Token.Modifier

/-!
Contract: tokens with their place in a document, and the normal form of token
lists.

Owns: ranges and their order (by line, then by start, longer ones first), tokens
over ranges, and normalization: tokens of one range become one token, and a
token that starts inside an earlier one is dropped.
-/

set_option autoImplicit false

namespace Highlight

/-- A stretch of one line, counted in UTF-16 code units. -/
structure TokenRange where
  line : UInt32
  start : UInt32
  length : UInt32
  deriving DecidableEq, Repr

namespace TokenRange

def stop (range : TokenRange) : UInt32 :=
  range.start + range.length

instance : Ord TokenRange where
  compare :=
    compareLex (compareOn line)
      (compareLex (compareOn start) (fun left right => compareOn length right left))

instance : Std.TransOrd TokenRange :=
  inferInstanceAs (Std.TransCmp
    (compareLex (compareOn line)
      (compareLex (compareOn start) (fun left right => compareOn length right left))))

instance : Std.LawfulEqOrd TokenRange where
  eq_of_compare := by
    intro left right same
    have fields :
        left.line = right.line ∧ left.start = right.start ∧ right.length = left.length := by
      have unfolded :
          compareLex (compareOn line)
            (compareLex (compareOn start) (fun left right => compareOn length right left))
            left right = .eq := same
      simpa only [compareLex_eq_eq, compareOn, Std.LawfulEqCmp.compare_eq_iff_eq] using unfolded
    obtain ⟨lines, starts, lengths⟩ := fields
    cases left
    cases right
    simp_all

/-- The range starts before another one on its line ends. -/
def startsInside (range earlier : TokenRange) : Bool :=
  earlier.line == range.line && decide (range.start < earlier.stop)

end TokenRange

/-- A classified stretch of a document. A name from another module keeps that module. -/
structure RangedToken where
  range : TokenRange
  kind : TokenKind
  modifiers : Modifiers
  definedIn : Option String
  deriving DecidableEq, Repr

namespace RangedToken

/-- One token for two of the same range: the higher kind stands with its module, the one held
already staying on a tie, and the modifiers are united. -/
def absorb (held token : RangedToken) : RangedToken :=
  let modifiers := held.modifiers.union token.modifiers
  if held.kind.rank < token.kind.rank then
    { held with kind := token.kind, definedIn := token.definedIn, modifiers := modifiers }
  else
    { held with modifiers := modifiers }

abbrev RangeMap := Std.ExtTreeMap TokenRange RangedToken

def place (tokens : RangeMap) (token : RangedToken) : RangeMap :=
  tokens.alter token.range fun
    | none => some token
    | some held => some (held.absorb token)

/-- The tokens in order of their ranges, one for each range. -/
def mergeRanges (tokens : List RangedToken) : List RangedToken :=
  (tokens.foldl place ∅).toList.map Prod.snd

/-- Drops every token that starts inside the last one kept. -/
def dropOverlaps (last : Option TokenRange) : List RangedToken → List RangedToken
  | [] => []
  | token :: rest =>
      if last.any token.range.startsInside then dropOverlaps last rest
      else token :: dropOverlaps (some token.range) rest

/-- The normal form of a token list: sorted, one token a range, no overlaps. -/
def normalize (tokens : List RangedToken) : List RangedToken :=
  dropOverlaps none (mergeRanges tokens)

end RangedToken

end Highlight
