import Highlight.Text.Column

/-!
Contract: a document as a table of lines.

Owns: the byte offsets at which lines start, and the text of a line without its
terminator. A line ends at a line feed; one carriage return before that, or at
the end of the document, is not part of the line.
-/

set_option autoImplicit false

namespace Highlight.Text

/-- Byte offsets just after each line feed, for a text that starts at `offset`. -/
def startsAfter : List Char → Nat → List Nat
  | [], _ => []
  | c :: rest, offset =>
      let next := offset + c.utf8Size
      if c = '\n' then next :: startsAfter rest next else startsAfter rest next

def lineStarts (text : List Char) : List Nat :=
  0 :: startsAfter text 0

/-- A line without one trailing carriage return. -/
def dropCarriageReturn (line : List Char) : List Char :=
  (beforeSuffix? line ['\r']).getD line

structure LineTable where
  text : List Char
  starts : List Nat
  deriving DecidableEq, Repr

namespace LineTable

def ofText (text : List Char) : LineTable where
  text := text
  starts := lineStarts text

/-- Where a line stops: before the line feed that ends it, or at the end of the document. -/
def stop (table : LineTable) (number : Nat) : Nat :=
  match table.starts[number + 1]? with
  | some next => next - 1
  | none => byteLength table.text

/-- Text of a line without its terminator. -/
def line (table : LineTable) (number : Nat) : Option (List Char) := do
  let start ← table.starts[number]?
  let content ← slice? table.text start (table.stop number)
  pure (dropCarriageReturn content)

end LineTable

end Highlight.Text
