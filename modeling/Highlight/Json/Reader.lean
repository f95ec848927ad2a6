import Highlight.Json.Value

/-!
Contract: reading a JSON text.

Owns: the grammar of JSON texts and the values they stand for. A text nested
128 levels deep or more, a number too large for 64 bits of binary, half of a
surrogate pair and a control character inside a string are refused.

A number with a fraction, an exponent or too many digits is read in three steps:
the leading digits that fit 64 bits make a whole number, that is rounded to a
binary number, and the binary number is scaled by a power of ten.
-/

set_option autoImplicit false

namespace Highlight.Json.Reader

/-- Levels of nesting at which a text is refused. -/
def nestingLimit : Nat := 128

def greatestWord : Nat := 0xffffffffffffffff

/-- The text after the blanks that JSON allows between its tokens. -/
def skipBlanks (text : List Char) : List Char :=
  text.dropWhile fun c => c == ' ' || c == '\n' || c == '\t' || c == '\r'

def hexValue? (c : Char) : Option Nat :=
  if '0' ≤ c ∧ c ≤ '9' then some (c.toNat - '0'.toNat)
  else if 'a' ≤ c ∧ c ≤ 'f' then some (c.toNat - 'a'.toNat + 10)
  else if 'A' ≤ c ∧ c ≤ 'F' then some (c.toNat - 'A'.toNat + 10)
  else none

def hexWord? (a b c d : Char) : Option Nat := do
  let a ← hexValue? a
  let b ← hexValue? b
  let c ← hexValue? c
  let d ← hexValue? d
  pure (((a * 16 + b) * 16 + c) * 16 + d)

def shortEscape? : Char → Option Char
  | '"' => some '"'
  | '\\' => some '\\'
  | '/' => some '/'
  | 'b' => some '\x08'
  | 'f' => some '\x0c'
  | 'n' => some '\n'
  | 'r' => some '\r'
  | 't' => some '\t'
  | _ => none

/-- The characters of a string up to its closing quote, and the text after it. The characters
read so far are given in reverse. -/
def stringBody (done : List Char) : List Char → Option (List Char × List Char)
  | [] => none
  | '"' :: rest => some (done.reverse, rest)
  | '\\' :: 'u' :: a :: b :: c :: d :: '\\' :: 'u' :: e :: f :: g :: h :: rest =>
      match hexWord? a b c d with
      | none => none
      | some first =>
          if 0xd800 ≤ first ∧ first < 0xdc00 then
            match hexWord? e f g h with
            | none => none
            | some second =>
                if 0xdc00 ≤ second ∧ second < 0xe000 then
                  let code := 0x10000 + (first - 0xd800) * 0x400 + (second - 0xdc00)
                  stringBody (Char.ofNat code :: done) rest
                else none
          else if 0xdc00 ≤ first ∧ first < 0xe000 then none
          else stringBody (Char.ofNat first :: done) ('\\' :: 'u' :: e :: f :: g :: h :: rest)
  | '\\' :: 'u' :: a :: b :: c :: d :: rest =>
      match hexWord? a b c d with
      | none => none
      | some code =>
          if 0xd800 ≤ code ∧ code < 0xe000 then none
          else stringBody (Char.ofNat code :: done) rest
  | '\\' :: c :: rest =>
      match shortEscape? c with
      | none => none
      | some escaped => stringBody (escaped :: done) rest
  | c :: rest =>
      if c.toNat < 0x20 ∨ c = '\\' then none else stringBody (c :: done) rest

/-- Whole number so far, and the number of digits that no longer fitted. -/
structure Leading where
  significand : Nat
  dropped : Nat
  taken : Nat
  deriving DecidableEq, Repr

/-- Takes digits into the significand until the first that does not fit 64 bits. -/
def Leading.takeDigits (start : Nat) (digits : List Char) : Leading :=
  digits.foldl (fun (state : Leading) digit =>
    let extended := state.significand * 10 + (digit.toNat - '0'.toNat)
    if state.dropped = 0 ∧ extended ≤ greatestWord then
      { state with significand := extended, taken := state.taken + 1 }
    else
      { state with dropped := state.dropped + 1 }) ⟨start, 0, 0⟩

/-- Scales a binary number by a power of ten, in steps of at most `10 ^ 308`. -/
def scale (fuel : Nat) (number : Number.Scaled) (exponent : Int) : Option Number.Scaled :=
  let apply := fun (power : Int) => do
    let factor ← Number.nearest? (Number.tenTo power.natAbs) 1
    let (numerator, denominator) := number.ratio
    let (up, down) := factor.ratio
    if 0 ≤ power then Number.nearest? (numerator * up) (denominator * down)
    else Number.nearest? (numerator * down) (denominator * up)
  match fuel with
  | 0 => some ⟨0, Number.leastExponent⟩
  | fuel + 1 =>
      if exponent.natAbs ≤ 308 then apply exponent
      else if number.significand = 0 then some number
      else if 0 ≤ exponent then none
      else (apply (-308)).bind fun smaller => scale fuel smaller (exponent + 308)

def binary? (negative : Bool) (significand : Nat) (exponent : Int) : Option JsonNumber := do
  let whole ← Number.nearest? significand 1
  let number ← scale 8 whole exponent
  pure (.binary (if negative then number.toBits ||| 0x8000000000000000 else number.toBits))

def numberOf? (negative : Bool) (whole fraction : List Char) (exponent : Option Int) :
    Option JsonNumber :=
  let leading := Leading.takeDigits 0 whole
  if fraction = [] ∧ exponent = none ∧ leading.dropped = 0 then
    if negative = false then some (.integer leading.significand)
    else if 0 < leading.significand ∧ leading.significand ≤ 0x8000000000000000 then
      some (.integer (-(leading.significand : Int)))
    else binary? negative leading.significand 0
  else
    let all := Leading.takeDigits leading.significand fraction
    binary? negative all.significand
      ((leading.dropped : Int) - (all.taken : Int) + exponent.getD 0)

/-- The fraction of a numeral: a point and at least one digit, or nothing. -/
def fraction? (text : List Char) : Option (List Char × List Char) :=
  match text with
  | '.' :: rest =>
      let digits := rest.takeWhile Char.isDigit
      if digits = [] then none else some (digits, rest.dropWhile Char.isDigit)
  | _ => some ([], text)

/-- The exponent of a numeral: a mark, a sign if any, and at least one digit; or nothing. -/
def exponent? (text : List Char) : Option (Option Int × List Char) :=
  let number := fun (negative : Bool) (rest : List Char) =>
    let digits := rest.takeWhile Char.isDigit
    let size : Nat := digits.foldl (fun total digit => total * 10 + (digit.toNat - '0'.toNat)) 0
    if digits = [] then none
    else some (some (if negative then -(size : Int) else size), rest.dropWhile Char.isDigit)
  let signed := fun (rest : List Char) =>
    match rest with
    | '+' :: rest => number false rest
    | '-' :: rest => number true rest
    | _ => number false rest
  match text with
  | 'e' :: rest => signed rest
  | 'E' :: rest => signed rest
  | _ => some (none, text)

/-- The digits before the point: a single zero, or digits that do not start with one. -/
def wholeDigits? (text : List Char) : Option (List Char × List Char) :=
  match text with
  | '0' :: rest =>
      match rest with
      | c :: _ => if c.isDigit then none else some (['0'], rest)
      | [] => some (['0'], [])
  | _ =>
      let digits := text.takeWhile Char.isDigit
      if digits = [] then none else some (digits, text.dropWhile Char.isDigit)

def number? (text : List Char) : Option (JsonNumber × List Char) := do
  let (negative, text) := match text with
    | '-' :: rest => (true, rest)
    | _ => (false, text)
  let (whole, text) ← wholeDigits? text
  let (fraction, text) ← fraction? text
  let (exponent, text) ← exponent? text
  let number ← numberOf? negative whole fraction exponent
  pure (number, text)

mutual

/-- A value at the start of the text, `depth` levels of nesting being left. -/
def value? (fuel depth : Nat) (text : List Char) : Option (Json × List Char) :=
  match fuel with
  | 0 => none
  | fuel + 1 =>
      match skipBlanks text with
      | 'n' :: 'u' :: 'l' :: 'l' :: rest => some (.null, rest)
      | 't' :: 'r' :: 'u' :: 'e' :: rest => some (.bool true, rest)
      | 'f' :: 'a' :: 'l' :: 's' :: 'e' :: rest => some (.bool false, rest)
      | '"' :: rest => (stringBody [] rest).map fun (body, rest) => (.string (String.ofList body), rest)
      | '[' :: rest =>
          if depth ≤ 1 then none
          else
            match skipBlanks rest with
            | ']' :: rest => some (.array [], rest)
            | rest => items? fuel (depth - 1) [] rest
      | '\x7b' :: rest =>
          if depth ≤ 1 then none
          else
            match skipBlanks rest with
            | '\x7d' :: rest => some (.object [], rest)
            | rest => members? fuel (depth - 1) [] rest
      | rest => (number? rest).map fun (numeral, rest) => (.number numeral, rest)

/-- The items of an array up to its closing bracket. The items read so far are in reverse. -/
def items? (fuel depth : Nat) (done : List Json) (text : List Char) : Option (Json × List Char) :=
  match fuel with
  | 0 => none
  | fuel + 1 =>
      match value? fuel depth text with
      | none => none
      | some (item, rest) =>
          match skipBlanks rest with
          | ',' :: rest => items? fuel depth (item :: done) rest
          | ']' :: rest => some (.array (item :: done).reverse, rest)
          | _ => none

def members? (fuel depth : Nat) (done : List (String × Json)) (text : List Char) :
    Option (Json × List Char) :=
  match fuel with
  | 0 => none
  | fuel + 1 =>
      match skipBlanks text with
      | '"' :: rest =>
          match stringBody [] rest with
          | none => none
          | some (key, rest) =>
              match skipBlanks rest with
              | ':' :: rest =>
                  match value? fuel depth rest with
                  | none => none
                  | some (value, rest) =>
                      let done := (String.ofList key, value) :: done
                      match skipBlanks rest with
                      | ',' :: rest => members? fuel depth done rest
                      | '\x7d' :: rest => some (Json.ofMembers done.reverse, rest)
                      | _ => none
              | _ => none
      | _ => none

end

end Highlight.Json.Reader

namespace Highlight.Json

/-- The value of a JSON text: one value with blanks around it and nothing else. -/
def parse? (text : String) : Option Json :=
  let chars := text.toList
  match Reader.value? (2 * chars.length + 2) Reader.nestingLimit chars with
  | some (value, rest) => if (Reader.skipBlanks rest).isEmpty then some value else none
  | none => none

end Highlight.Json
