import Highlight.Source.Reference
import Highlight.Token.Locate

/-!
Contract: the tokens of a document.

Owns: the way from a syntax tree, a name map and a text to the token list. Every
identifier has one kind in a document, from all its occurrences together; every
occurrence whose name is found in the text becomes a token, and the tokens are
brought to normal form.
-/

set_option autoImplicit false

namespace Highlight

def mergedDetails (occurrences : List Occurrence) : Details :=
  occurrences.foldl (fun merged occurrence => merged.merge occurrence.details) Details.empty

def Identifier.kind (names : NameMap) (occurrences : List Occurrence) : Identifier → TokenKind
  | .ofModule _ => .moduleName
  | .ofName name =>
      classify (some (mergedDetails occurrences)) (names.find? name.unique) name.isSymbolic

def Occurrence.modifiers (occurrence : Occurrence) : Modifiers :=
  if occurrence.details.isBinding then Modifiers.declarationOnly else Modifiers.none

/-- The tokens of one identifier: one for each occurrence that the text confirms. -/
def Identifier.tokens (table : Text.LineTable) (names : NameMap) (identifier : Identifier)
    (occurrences : List Occurrence) : List RangedToken :=
  let kind := identifier.kind names occurrences
  let spelling := identifier.spelling.toList
  occurrences.filterMap fun occurrence =>
    (locate table occurrence.span spelling).map fun range =>
      { range := range
        kind := kind
        modifiers := occurrence.modifiers
        definedIn := identifier.definedIn }

/-- All tokens of a tree before normalization, identifier by identifier. -/
def Node.rawTokens (root : Node) (names : NameMap) (text : List Char) : List RangedToken :=
  let table := Text.LineTable.ofText text
  root.references.toList.flatMap fun (identifier, occurrences) =>
    identifier.tokens table names occurrences

/-- The tokens of a document: sorted, without overlaps. -/
def Node.tokens (root : Node) (names : NameMap) (text : List Char) : List RangedToken :=
  RangedToken.normalize (root.rawTokens names text)

end Highlight
