import Highlight.Text.Column

/-!
Contract: tables of character data, written as text.

Owns: the rows of such a table and their written form. Rows are divided by
blanks. A row names a code point or a range of them in hexadecimal, `41-5a` for
all of a range and `100~12e` for every second one from its start, and after a
colon the code points it is about: `41-5a:61` sends `41` to `61`, `42` to `62`
and so on, and `df:73,73` sends `df` to two code points.
-/

set_option autoImplicit false

namespace Highlight.Text

/-- Every `step`-th code point from `first` to `last`, and what the first of them is sent to. -/
structure TableRow where
  first : Nat
  last : Nat
  step : Nat
  target : List Nat
  deriving DecidableEq, Repr

def hexValue (c : Char) : Nat :=
  if c.isDigit then c.toNat - '0'.toNat else c.toNat - 'a'.toNat + 10

def readHex (digits : List Char) : Nat :=
  digits.foldl (fun total c => total * 16 + hexValue c) 0

def readRange (range : List Char) (target : List Nat) : TableRow :=
  match pieces (· == '-') range, pieces (· == '~') range with
  | [first, last], _ => ⟨readHex first, readHex last, 1, target⟩
  | _, [first, last] => ⟨readHex first, readHex last, 2, target⟩
  | _, _ => ⟨readHex range, readHex range, 1, target⟩

def readRow (text : List Char) : TableRow :=
  match pieces (· == ':') text with
  | [range, target] => readRange range ((pieces (· == ',') target).map readHex)
  | _ => readRange text []

def readTable (lines : List String) : List TableRow :=
  lines.flatMap fun line => (pieces (· == ' ') line.toList).map readRow

def TableRow.holds (row : TableRow) (code : Nat) : Bool :=
  row.first ≤ code && code ≤ row.last && (code - row.first) % row.step == 0

def findRow? (table : List TableRow) (code : Nat) : Option TableRow :=
  table.find? (·.holds code)

def isListed (table : List TableRow) (code : Nat) : Bool :=
  table.any (·.holds code)

/-- What a code point is sent to: what the first one of its row is sent to, moved by the distance
between the two. -/
def image? (table : List TableRow) (code : Nat) : Option (List Nat) :=
  (findRow? table code).map fun row => row.target.map (· + (code - row.first))

end Highlight.Text
