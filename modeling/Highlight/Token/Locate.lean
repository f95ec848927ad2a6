import Highlight.Source.Tree
import Highlight.Text.Character
import Highlight.Text.Column
import Highlight.Text.Lines
import Highlight.Token.Ranged

/-!
Contract: finding a name inside the text that a span covers.

Owns: the forms in which a name may stand there: bare, in parentheses or in
backquotes, and with a module qualifier in front. The range found covers the
name alone. A span whose text has none of these forms, as happens when the tree
is older than the text, gives nothing.
-/

set_option autoImplicit false

namespace Highlight

open Highlight.Text

/-- A segment of a module name: an uppercase character, then letters, digits, underscores and
apostrophes. -/
def isModuleSegment : List Char → Bool
  | [] => false
  | first :: rest =>
      isUppercase first && rest.all fun c => isAlphanumeric c || c == '_' || c == '\''

/-- Module segments, each followed by a point. -/
def isQualifier (text : List Char) : Bool :=
  match beforeSuffix? text ['.'] with
  | some body => (pieces (· == '.') body).all isModuleSegment
  | none => false

def between? (opening closing : Char) (text : List Char) : Option (List Char) :=
  (afterPrefix? text [opening]).bind (beforeSuffix? · [closing])

def unwrapped? (text : List Char) : Option (List Char) :=
  (between? '(' ')' text).or (between? '\x60' '\x60' text)

/-- The text without parentheses or backquotes and the blanks inside them, after its byte offset.
A text without them is kept as it is. -/
def unwrap (text : List Char) : Nat × List Char :=
  match unwrapped? text with
  | some inner => (1 + (byteLength inner - byteLength (trimStart inner)), trim inner)
  | none => (0, text)

/-- What stands before the name in the unwrapped text, or else in the text itself, after the byte
offset of that text. -/
def beforeName? (covered spelling : List Char) : Option (Nat × List Char) :=
  [unwrap covered, (0, covered)].findSome? fun (offset, inner) =>
    (beforeSuffix? inner spelling).map fun qualifier => (offset, qualifier)

def locate (table : LineTable) (span : Span) (spelling : List Char) : Option TokenRange :=
  if spelling.isEmpty || !span.isSingleLine || span.stop.column ≤ span.start.column then none
  else do
    let line ← table.line span.start.line.toNat
    let startByte ← byteOfColumn line span.start.column.toNat
    let stopByte ← byteOfColumn line span.stop.column.toNat
    let covered ← slice? line startByte stopByte
    let (offset, qualifier) ← beforeName? covered spelling
    if qualifier.isEmpty || isQualifier qualifier then
      let nameStart := startByte + offset + byteLength qualifier
      let start ← unitOfByte line nameStart
      let stop ← unitOfByte line (nameStart + byteLength spelling)
      pure ⟨span.start.line, UInt32.ofNat start, UInt32.ofNat (stop - start)⟩
    else
      none

end Highlight
