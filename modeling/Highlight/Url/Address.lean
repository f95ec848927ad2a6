import Highlight.Text.Column

/-!
Contract: numeric network addresses.

Owns: the reading of IPv4 addresses in the loose form that URLs allow (one to
four parts, each decimal, octal or hexadecimal), the reading of IPv6 addresses,
and the canonical text of both.
-/

set_option autoImplicit false

namespace Highlight.Address

open Highlight.Text

def digit? (base : Nat) (c : Char) : Option Nat :=
  let value :=
    if '0' ≤ c ∧ c ≤ '9' then some (c.toNat - '0'.toNat)
    else if 'a' ≤ c ∧ c ≤ 'f' then some (c.toNat - 'a'.toNat + 10)
    else if 'A' ≤ c ∧ c ≤ 'F' then some (c.toNat - 'A'.toNat + 10)
    else none
  value.filter (· < base)

def number? (base : Nat) (digits : List Char) : Option Nat :=
  digits.foldlM (fun total c => (digit? base c).map (total * base + ·)) 0

/-- Value of a part of an IPv4 address, `0x` marking hexadecimal and a leading zero octal. -/
def part? : List Char → Option Nat
  | [] => none
  | '0' :: 'x' :: digits => number? 16 digits
  | '0' :: 'X' :: digits => number? 16 digits
  | '0' :: c :: digits => number? 8 (c :: digits)
  | digits => number? 10 digits

/-- The parts of a dotted text, an empty last one left out. -/
def dottedParts (text : List Char) : List (List Char) :=
  let parts := pieces (· == '.') text
  if 1 < parts.length ∧ parts.getLast? = some [] then parts.dropLast else parts

/-- The last part of a host is numeric, so that the host has to be an IPv4 address. -/
def endsInNumber (text : List Char) : Bool :=
  match (dottedParts text).getLast? with
  | some last => (!last.isEmpty && last.all Char.isDigit) || (part? last).isSome
  | none => false

def dotted (address : Nat) : List Char :=
  let byte := fun (shift : Nat) => Nat.toDigits 10 (address / Nat.pow 2 shift % 256)
  byte 24 ++ ['.'] ++ byte 16 ++ ['.'] ++ byte 8 ++ ['.'] ++ byte 0

/-- Canonical text of an IPv4 address in loose form. -/
def ipv4? (text : List Char) : Option (List Char) := do
  let parts := dottedParts text
  if 4 < parts.length then none
  else
    let numbers ← parts.mapM part?
    let last ← numbers.getLast?
    let front := numbers.dropLast
    if Nat.pow 256 (4 - front.length) ≤ last ∨ front.any (255 < ·) then none
    else
      let total := front.zipIdx.foldl (fun sum (n, index) => sum + n * Nat.pow 256 (3 - index)) last
      pure (dotted total)

/-- A byte in decimal without leading zeros. -/
def strictByte? (digits : List Char) : Option Nat := do
  let value ← number? 10 digits
  if digits.isEmpty ∨ 255 < value ∨ (digits.head? = some '0' ∧ digits.length ≠ 1) then none
  else pure value

/-- A group of an IPv6 address: one to four hexadecimal digits. -/
def group? (digits : List Char) : Option Nat :=
  if digits.isEmpty ∨ 4 < digits.length then none else number? 16 digits

/-- The two groups that a strict IPv4 address takes at the end of an IPv6 address. -/
def embedded? (text : List Char) : Option (List Nat) := do
  match ← (pieces (· == '.') text).mapM strictByte? with
  | [a, b, c, d] => pure [a * 256 + b, c * 256 + d]
  | _ => none

/-- Groups between colons, the last of which may be an IPv4 address if `atEnd`. -/
def groups? (atEnd : Bool) : List (List Char) → Option (List Nat)
  | [] => some []
  | [last] => if atEnd ∧ last.contains '.' then embedded? last else (group? last).map ([·])
  | first :: rest => do
      let value ← group? first
      let values ← groups? atEnd rest
      pure (value :: values)

def side? (atEnd : Bool) (text : List Char) : Option (List Nat) :=
  if text.isEmpty then some [] else groups? atEnd (pieces (· == ':') text)

def atDoubleColon : List Char → Option (List Char × List Char)
  | [] => none
  | ':' :: ':' :: rest => some ([], rest)
  | c :: rest => (atDoubleColon rest).map fun (before, after) => (c :: before, after)

/-- The eight groups of an IPv6 address; a double colon stands for one or more zero groups. -/
def ipv6? (text : List Char) : Option (List Nat) := do
  match atDoubleColon text with
  | none =>
      let groups ← side? true text
      if groups.length = 8 then pure groups else none
  | some (before, after) =>
      let left ← side? false before
      let right ← side? true after
      let count := left.length + right.length
      if 7 < count then none else pure (left ++ List.replicate (8 - count) 0 ++ right)

def zeroRun (groups : List Nat) : Nat :=
  (groups.takeWhile (· == 0)).length

/-- Start and length of the first longest run of at least two zero groups. -/
def longestRun? (groups : List Nat) : Option (Nat × Nat) :=
  let runs := (List.range groups.length).map fun start => (start, zeroRun (groups.drop start))
  let best := runs.foldl (fun (found : Nat × Nat) run => if found.2 < run.2 then run else found) (0, 1)
  if 2 ≤ best.2 then some best else none

def joined (groups : List Nat) : List Char :=
  [':'].intercalate (groups.map (Nat.toDigits 16))

/-- Text of an IPv6 address, its first longest run of zero groups left out. -/
def ipv6Text (groups : List Nat) : List Char :=
  match longestRun? groups with
  | none => joined groups
  | some (start, length) =>
      joined (groups.take start) ++ [':', ':'] ++ joined (groups.drop (start + length))

end Highlight.Address
