import Highlight.Number.Shortest

/-!
Contract: JSON values.

Owns: the value type, access to members by key, and objects whose members stand
in ascending key order with the last of equal keys kept. An integer is a number
written without fraction or exponent that fits 64 bits; every other number is a
64-bit binary number.
-/

set_option autoImplicit false

namespace Highlight

/-- A JSON number: an integer of at most 64 bits, or a 64-bit binary number. -/
inductive JsonNumber where
  | integer (value : Int)
  | binary (bits : UInt64)
  deriving DecidableEq, Repr

inductive Json where
  | null
  | bool (value : Bool)
  | number (value : JsonNumber)
  | string (value : String)
  | array (items : List Json)
  | object (members : List (String × Json))
  deriving Repr, Inhabited

namespace Json

/-- The member of an object under a key; other values have no members. -/
def get? (value : Json) (key : String) : Option Json :=
  match value with
  | .object members => members.lookup key
  | _ => none

def isObject : Json → Bool
  | .object _ => true
  | _ => false

def isNull : Json → Bool
  | .null => true
  | _ => false

def ofNat (value : Nat) : Json := .number (.integer value)

def ofInt (value : Int) : Json := .number (.integer value)

/-- Puts a member in its place in ascending key order, in place of one with the same key. -/
def insertMember (key : String) (value : Json) : List (String × Json) → List (String × Json)
  | [] => [(key, value)]
  | (other, held) :: rest =>
      if key < other then (key, value) :: (other, held) :: rest
      else if key = other then (key, value) :: rest
      else (other, held) :: insertMember key value rest

/-- An object from members in the order written; of equal keys the last one stands. -/
def ofMembers (members : List (String × Json)) : Json :=
  .object (members.foldl (fun placed (key, value) => insertMember key value placed) [])

end Json

end Highlight
