import Highlight.Number.Binary

/-!
Contract: the shortest decimal text of a 64-bit binary number.

Owns: the fewest decimal digits that read back as the number, the nearest of
them when there are several, the even one of two that are equally near, and the
text of such digits: positional with a decimal point for numbers of moderate
size, and with an exponent, which has a sign, for all others.
-/

set_option autoImplicit false

namespace Highlight.Number

/-- Decimal digits with the place of the point: `0.digits` times ten to the power `point`. -/
structure Digits where
  digits : List Char
  point : Int
  deriving DecidableEq, Repr

/-- The reals that round to a number, as multiples of a quarter of its last place. -/
structure Interval where
  low : Nat
  high : Nat
  closed : Bool
  deriving DecidableEq, Repr

/-- The rounding interval of a number. It is narrower below a power of two, and holds its ends
exactly when the significand is even. -/
def Interval.around (number : Scaled) : Interval where
  low :=
    if number.significand = powerOfTwo 52 ∧ leastExponent < number.exponent then
      4 * number.significand - 1
    else
      4 * number.significand - 2
  high := 4 * number.significand + 2
  closed := number.significand % 2 = 0

def tenTo (exponent : Nat) : Nat := Nat.pow 10 exponent

/-- Ten to an integer power, as numerator and denominator. -/
def powerOfTen (exponent : Int) : Nat × Nat :=
  if exponent < 0 then (1, tenTo exponent.natAbs) else (tenTo exponent.natAbs, 1)

/-- The power of ten just above a positive ratio. -/
def decimalPoint (numerator denominator : Nat) : Int :=
  if denominator ≤ numerator then
    ((Nat.toDigits 10 (numerator / denominator)).length : Int)
  else
    let shift := (List.range 400).find? fun places => denominator ≤ numerator * tenTo (places + 1)
    0 - (shift.getD 0 : Int)

/-- The decimals with a given number of digits next to the number, the nearer one first, and the
even one first when both are equally near. -/
def neighbours (numerator denominator : Nat) (point : Int) (count : Nat) : List Nat :=
  let (up, down) := powerOfTen ((count : Int) - point)
  let above := numerator * up
  let below := denominator * down
  let whole := above / below
  if roundHalfEven above below = whole then [whole, whole + 1] else [whole + 1, whole]

def Interval.holds (interval : Interval) (exponent : Int) (decimal : Nat) (place : Int) : Bool :=
  let (up, down) := powerOfTen place
  let (scaled, unit) := divideByPower (decimal * up) down (exponent - 2)
  let low := interval.low * unit
  let high := interval.high * unit
  if interval.closed then low ≤ scaled && scaled ≤ high else low < scaled && scaled < high

/-- The fewest digits that read back as a positive number. -/
def shortest (number : Scaled) : Digits :=
  let (numerator, denominator) := number.ratio
  let point := decimalPoint numerator denominator
  let interval := Interval.around number
  let candidate := fun (count : Nat) =>
    (neighbours numerator denominator point count).find? fun decimal =>
      interval.holds number.exponent decimal (point - count)
  let found := (List.range 17).findSome? fun index =>
    (candidate (index + 1)).map fun decimal => (index + 1, decimal)
  let (count, decimal) := found.getD (1, 0)
  let digits := Nat.toDigits 10 decimal
  ⟨digits, point + ((digits.length : Int) - count)⟩

def withoutTrailingZeros (digits : List Char) : List Char :=
  (digits.reverse.dropWhile (· == '0')).reverse

/-- Positional text of digits, with a digit on both sides of the point. -/
def positionalText (digits : List Char) (point : Int) : List Char :=
  if point ≤ 0 then
    ['0', '.'] ++ List.replicate point.natAbs '0' ++ digits
  else
    let places := point.natAbs
    if digits.length ≤ places then
      digits ++ List.replicate (places - digits.length) '0' ++ ['.', '0']
    else
      digits.take places ++ ['.'] ++ digits.drop places

/-- Text of digits with an exponent. The point stands after the first digit, and is left out when
there is no other. -/
def exponentText (digits : List Char) (point : Int) : List Char :=
  let exponent := point - 1
  let fraction := digits.drop 1
  digits.take 1 ++ (if fraction.isEmpty then [] else '.' :: fraction) ++
    ['e', if exponent < 0 then '-' else '+'] ++ Nat.toDigits 10 exponent.natAbs

/-- Numbers from a hundred-thousandth up to ten to the power sixteen are written without an
exponent. -/
def isModerate (point : Int) : Bool :=
  decide (-5 < point) && decide (point ≤ 16)

def Digits.text (number : Digits) : List Char :=
  let digits := withoutTrailingZeros number.digits
  if isModerate number.point then positionalText digits number.point
  else exponentText digits number.point

def textOfBits (bits : UInt64) : String :=
  let number := Scaled.ofBits bits
  let body := if number.significand = 0 then ['0', '.', '0'] else (shortest number).text
  String.ofList (if bits.toNat / powerOfTwo 63 = 1 then '-' :: body else body)

end Highlight.Number
