import Std.Data.ExtTreeSet

/-!
Contract: labels of domain names in ASCII.

Owns: the encoding of a label in ASCII and its inverse. The ASCII characters of
a label come first; after a hyphen follow the others, in ascending order, each
as the distance from the one before, counted in places where it could have been
inserted. Distances are numbers in base 36 of variable length, whose digits end
below a threshold that adapts to the distances seen so far.
-/

set_option autoImplicit false

namespace Highlight.Domain.Punycode

def base : Nat := 36

/-- The threshold before any distance has been seen. -/
def initialBias : Nat := 72

def initialCode : Nat := 0x80

def greatestWeight : Nat := 0xffffffff

/-- A digit: letters come before decimal digits. -/
def digitChar (digit : Nat) : Char :=
  if digit < 26 then Char.ofNat ('a'.toNat + digit) else Char.ofNat ('0'.toNat + digit - 26)

def digitValue? (c : Char) : Option Nat :=
  if c.isLower then some (c.toNat - 'a'.toNat)
  else if c.isDigit then some (c.toNat - '0'.toNat + 26)
  else none

/-- The threshold at a position, counted in steps of the base: a digit below it is the last. -/
def threshold (position bias : Nat) : Nat :=
  if position ≤ bias then 1 else if bias + 26 ≤ position then 26 else position - bias

theorem one_le_threshold
    (position bias : Nat) :
    1 ≤ threshold position bias := by
  unfold threshold
  split
  · exact Nat.le_refl 1
  · split <;> omega

/-- Divides a distance until it is small, and counts the steps in multiples of the base. -/
def reduce (distance steps : Nat) : Nat × Nat :=
  if 455 < distance then reduce (distance / 35) (steps + base) else (distance, steps)
termination_by distance
decreasing_by exact Nat.div_lt_self (by omega) (by omega)

/-- The bias after a distance, given how many characters there are now. -/
def adapt (distance count : Nat) (isFirst : Bool) : Nat :=
  let scaled := if isFirst then distance / 700 else distance / 2
  let (rest, steps) := reduce (scaled + scaled / count) 0
  steps + base * rest / (rest + 38)

/-! ### Reading -/

/-- A label so far, and the distance that is being read. -/
structure Reading where
  label : List Char
  code : Nat
  bias : Nat
  start : Nat
  distance : Nat
  weight : Nat
  position : Nat
  deriving DecidableEq, Repr

def Reading.ofAscii (label : List Char) : Reading where
  label := label
  code := initialCode
  bias := initialBias
  start := 0
  distance := 0
  weight := 1
  position := base

/-- Inserts the character that a complete distance leads to. -/
def Reading.insert? (reading : Reading) (distance : Nat) : Option Reading :=
  let count := reading.label.length + 1
  let code := reading.code + distance / count
  let place := distance % count
  if code.isValidChar then
    some
      { label := reading.label.insertIdx place (Char.ofNat code)
        code := code
        bias := adapt (distance - reading.start) count (reading.start == 0)
        start := place + 1
        distance := place + 1
        weight := 1
        position := base }
  else none

def Reading.step? (reading : Reading) (c : Char) : Option Reading := do
  let digit ← digitValue? c
  let distance := reading.distance + digit * reading.weight
  let least := threshold reading.position reading.bias
  let weight := reading.weight * (base - least)
  if digit < least then reading.insert? distance
  else if greatestWeight < weight then none
  else
    some { reading with
      distance := distance, weight := weight, position := reading.position + base }

/-- Cuts a text at its last hyphen. The ASCII characters are not empty where there is a cut. -/
def cut (text : List Char) : List Char × List Char :=
  let digits := (text.reverse.takeWhile (· != '-')).reverse
  let ascii := (text.take (text.length - digits.length)).dropLast
  if ascii.isEmpty then ([], text) else (ascii, digits)

def decode? (text : List Char) : Option (List Char) := do
  let (ascii, digits) := cut text
  let reading ← digits.foldlM Reading.step? (Reading.ofAscii ascii)
  if reading.position = base then some reading.label else none

/-! ### Writing -/

def writeDistance (bias position distance : Nat) : List Char :=
  let least := threshold position bias
  if distance < least then [digitChar distance]
  else
    digitChar (least + (distance - least) % (base - least)) ::
      writeDistance bias (position + base) ((distance - least) / (base - least))
termination_by distance
decreasing_by
  have positive := one_le_threshold position bias
  have smaller := Nat.div_le_self (distance - threshold position bias)
    (base - threshold position bias)
  omega

/-- A text so far, with the distance to the next character. -/
structure Writing where
  text : List Char
  code : Nat
  bias : Nat
  distance : Nat
  count : Nat
  deriving DecidableEq, Repr

/-- Goes past a character of the label while all occurrences of a code point are written. -/
def Writing.pass (asciiCount code : Nat) (writing : Writing) (c : Char) : Writing :=
  if c.toNat < code then { writing with distance := writing.distance + 1 }
  else if c.toNat = code then
    { writing with
      text := writing.text ++ writeDistance writing.bias base writing.distance
      bias := adapt writing.distance (writing.count + 1) (writing.count == asciiCount)
      distance := 0
      count := writing.count + 1 }
  else writing

/-- Writes all occurrences of a code point. -/
def Writing.addCode (label : List Char) (asciiCount : Nat) (writing : Writing) (code : Nat) :
    Writing :=
  let distance := writing.distance + (code - writing.code) * (writing.count + 1)
  let written := label.foldl (Writing.pass asciiCount code) { writing with distance := distance }
  { written with code := code + 1, distance := written.distance + 1 }

def encode (label : List Char) : List Char :=
  let ascii := label.filter fun c => c.toNat < initialCode
  let codes := (label.map Char.toNat).filter fun code => initialCode ≤ code
  let start : Writing := ⟨[], initialCode, initialBias, 0, ascii.length⟩
  let written := (Std.ExtTreeSet.ofList codes).toList.foldl
    (Writing.addCode label ascii.length) start
  (if ascii.isEmpty then [] else ascii ++ ['-']) ++ written.text

end Highlight.Domain.Punycode
