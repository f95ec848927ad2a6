/-!
Contract: binary numbers of 64 bits and the ratios they stand for.

Owns: the nearest 64-bit binary number to a ratio of naturals, ties to the even
significand, and the reading of such a number as a significand times a power of
two. The sign is kept apart: all numbers here are non-negative and finite.
-/

set_option autoImplicit false

namespace Highlight.Number

/-- The number `significand * 2 ^ exponent`. -/
structure Scaled where
  significand : Nat
  exponent : Int
  deriving DecidableEq, Repr

def powerOfTwo (exponent : Nat) : Nat := Nat.pow 2 exponent

def leastExponent : Int := -1074

def greatestExponent : Int := 971

namespace Scaled

def ratio (number : Scaled) : Nat × Nat :=
  if number.exponent < 0 then (number.significand, powerOfTwo number.exponent.natAbs)
  else (number.significand * powerOfTwo number.exponent.natAbs, 1)

/-- The number that a word of 64 bits stands for, its sign left aside. -/
def ofBits (bits : UInt64) : Scaled :=
  let fraction := bits.toNat % powerOfTwo 52
  let field : Nat := bits.toNat / powerOfTwo 52 % powerOfTwo 11
  if field = 0 then ⟨fraction, leastExponent⟩ else ⟨powerOfTwo 52 + fraction, (field : Int) - 1075⟩

/-- The word of 64 bits that stands for a number in range. -/
def toBits (number : Scaled) : UInt64 :=
  if number.significand < powerOfTwo 52 then UInt64.ofNat number.significand
  else
    let field := (number.exponent + 1075).toNat
    UInt64.ofNat (field * powerOfTwo 52 + (number.significand - powerOfTwo 52))

end Scaled

/-- A quotient rounded to the nearest natural, ties to the even one. -/
def roundHalfEven (numerator denominator : Nat) : Nat :=
  let whole := numerator / denominator
  let twice := 2 * (numerator % denominator)
  if twice < denominator then whole
  else if denominator < twice then whole + 1
  else whole + whole % 2

def divideByPower (numerator denominator : Nat) (exponent : Int) : Nat × Nat :=
  if exponent < 0 then (numerator * powerOfTwo exponent.natAbs, denominator)
  else (numerator, denominator * powerOfTwo exponent.natAbs)

/-- The 64-bit binary number nearest to a ratio; none when it is too large. -/
def nearest? (numerator denominator : Nat) : Option Scaled :=
  if numerator = 0 then some ⟨0, leastExponent⟩
  else
    let guess : Int := (numerator.log2 : Int) - (denominator.log2 : Int) - 53
    let exponents := [guess, guess + 1, guess + 2].map (max leastExponent ·)
    let fits := fun (exponent : Int) =>
      let (above, below) := divideByPower numerator denominator exponent
      above / below < powerOfTwo 53
    let exponent := (exponents.find? fits).getD (guess + 2)
    let (above, below) := divideByPower numerator denominator exponent
    let significand := roundHalfEven above below
    let rounded : Scaled :=
      if significand = powerOfTwo 53 then ⟨powerOfTwo 52, exponent + 1⟩ else ⟨significand, exponent⟩
    if greatestExponent < rounded.exponent then none else some rounded

end Highlight.Number
