/-!
Contract: characters and their bytes in UTF-8.

Owns: the bytes of a text, and the text of any bytes. Bytes that are no
character are read as U+FFFD, one for each longest piece that could have been
the start of a character.
-/

set_option autoImplicit false

namespace Highlight.Text

def utf8Bytes (text : List Char) : List UInt8 :=
  text.flatMap String.utf8EncodeChar

def replacement : Char := Char.ofNat 0xfffd

def isContinuation (byte : UInt8) : Bool :=
  0x80 ≤ byte && byte ≤ 0xbf

/-- What a first byte announces: how many bytes follow, the range of the first of them, and the
bits that the first byte contributes. -/
structure Lead where
  following : Nat
  low : UInt8
  high : UInt8
  bits : Nat
  deriving DecidableEq, Repr

/-- The announcement of a first byte; none when no character starts with it. -/
def Lead.of? (byte : UInt8) : Option Lead :=
  if 0xc2 ≤ byte ∧ byte ≤ 0xdf then some ⟨1, 0x80, 0xbf, byte.toNat % 0x20⟩
  else if byte = 0xe0 then some ⟨2, 0xa0, 0xbf, 0⟩
  else if byte = 0xed then some ⟨2, 0x80, 0x9f, 0xd⟩
  else if 0xe1 ≤ byte ∧ byte ≤ 0xef then some ⟨2, 0x80, 0xbf, byte.toNat % 0x10⟩
  else if byte = 0xf0 then some ⟨3, 0x90, 0xbf, 0⟩
  else if byte = 0xf4 then some ⟨3, 0x80, 0x8f, 4⟩
  else if 0xf1 ≤ byte ∧ byte ≤ 0xf3 then some ⟨3, 0x80, 0xbf, byte.toNat % 8⟩
  else none

/-- Reads the bytes that continue a character: its code point, if all are there, and the rest. -/
def continued (code : Nat) : Nat → List UInt8 → Option Nat × List UInt8
  | 0, bytes => (some code, bytes)
  | _ + 1, [] => (none, [])
  | following + 1, byte :: rest =>
      if isContinuation byte then continued (code * 64 + byte.toNat % 64) following rest
      else (none, byte :: rest)

/-- Reads one character, or one piece that is none, from bytes that are not empty. -/
def decodeFirst (first : UInt8) (rest : List UInt8) : Char × List UInt8 :=
  if first < 0x80 then (Char.ofNat first.toNat, rest)
  else
    match Lead.of? first, rest with
    | some lead, second :: after =>
        if lead.low ≤ second ∧ second ≤ lead.high then
          match continued (lead.bits * 64 + second.toNat % 64) (lead.following - 1) after with
          | (some code, remaining) => (Char.ofNat code, remaining)
          | (none, remaining) => (replacement, remaining)
        else (replacement, rest)
    | _, _ => (replacement, rest)

/-- Reads at most `fuel` characters. -/
def decodeUpTo : Nat → List UInt8 → List Char
  | 0, _ => []
  | _ + 1, [] => []
  | fuel + 1, first :: rest =>
      let (c, remaining) := decodeFirst first rest
      c :: decodeUpTo fuel remaining

def decodeLossy (bytes : List UInt8) : List Char :=
  decodeUpTo bytes.length bytes

end Highlight.Text
