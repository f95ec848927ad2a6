/-!
Contract: measures of a line of text, the conversions between its columns, and
the ways to cut it.

Owns: the length of a text in UTF-8 bytes and in UTF-16 code units, the byte
offset of a character column, the UTF-16 column of a byte offset, and cutting a
text at byte offsets, at an opening or ending, and at separators. A column past
the end, and a byte offset that falls inside a character, have no image.

Does not own: how a document is split into lines.
-/

set_option autoImplicit false

namespace Highlight.Text

def byteLength (text : List Char) : Nat :=
  text.foldr (fun c total => c.utf8Size + total) 0

def unitSize (c : Char) : Nat :=
  if c.toNat < 0x10000 then 1 else 2

def unitLength (text : List Char) : Nat :=
  text.foldr (fun c total => unitSize c + total) 0

/-- Byte offset of a character column; a column past the end has none. -/
def byteOfColumn : List Char → Nat → Option Nat
  | _, 0 => some 0
  | [], _ + 1 => none
  | c :: rest, column + 1 => (byteOfColumn rest column).map (c.utf8Size + ·)

/-- UTF-16 column of a byte offset; an offset inside a character or past the end has none. -/
def unitOfByte : List Char → Nat → Option Nat
  | _, 0 => some 0
  | [], _ + 1 => none
  | c :: rest, offset =>
      if c.utf8Size ≤ offset then
        (unitOfByte rest (offset - c.utf8Size)).map (unitSize c + ·)
      else
        none

/-- The rest of a text after a number of bytes, unless that falls inside a character or past the
end. -/
def dropBytes? : List Char → Nat → Option (List Char)
  | text, 0 => some text
  | [], _ + 1 => none
  | c :: rest, count =>
      if c.utf8Size ≤ count then dropBytes? rest (count - c.utf8Size) else none

/-- The first bytes of a text, unless they end inside a character or past the end. -/
def takeBytes? : List Char → Nat → Option (List Char)
  | _, 0 => some []
  | [], _ + 1 => none
  | c :: rest, count =>
      if c.utf8Size ≤ count then (takeBytes? rest (count - c.utf8Size)).map (c :: ·) else none

/-- The characters between two byte offsets, when both fall on character boundaries in order. -/
def slice? (text : List Char) (start stop : Nat) : Option (List Char) :=
  if start ≤ stop then
    (dropBytes? text start).bind (takeBytes? · (stop - start))
  else
    none

def beforeSuffix? (text ending : List Char) : Option (List Char) :=
  if ending.isSuffixOf text then some (text.take (text.length - ending.length)) else none

def afterPrefix? : List Char → List Char → Option (List Char)
  | text, [] => some text
  | [], _ :: _ => none
  | c :: text, d :: opening => if c = d then afterPrefix? text opening else none

/-- The pieces of a text between the separators, one more than there are separators. -/
def pieces (separator : Char → Bool) : List Char → List (List Char)
  | [] => [[]]
  | c :: rest =>
      if separator c then [] :: pieces separator rest
      else
        match pieces separator rest with
        | [] => [[c]]
        | first :: others => (c :: first) :: others

end Highlight.Text
