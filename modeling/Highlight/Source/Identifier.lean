import Highlight.Text.Character

/-!
Contract: the identifiers that occur in a source text.

Owns: names, modules, and the order in which identifiers are listed: modules
come first, and names go by spelling, then by their unique number, then by the
module that defines them, names of the file itself first.
-/

set_option autoImplicit false

namespace Highlight

/-- A resolved name. The unique number is its identity; a name of the file itself has no defining
module. -/
structure Name where
  spelling : String
  unique : UInt64
  definedIn : Option String
  deriving DecidableEq, Repr

def startsWord (c : Char) : Bool :=
  Text.isAlphanumeric c || c == '_' || c == '\''

/-- Operator names start with a symbol. -/
def Name.isSymbolic (name : Name) : Bool :=
  match name.spelling.toList with
  | first :: _ => !startsWord first
  | [] => false

inductive Identifier where
  | ofModule (name : String)
  | ofName (name : Name)
  deriving DecidableEq, Repr

namespace Identifier

/-- The text that stands for the identifier in a source. -/
def spelling : Identifier → String
  | .ofModule name => name
  | .ofName name => name.spelling

def definedIn : Identifier → Option String
  | .ofModule _ => none
  | .ofName name => name.definedIn

/-- Modules come before names. -/
def rank : Identifier → Nat
  | .ofModule _ => 0
  | .ofName _ => 1

def unique : Identifier → UInt64
  | .ofModule _ => 0
  | .ofName name => name.unique

instance : Ord Identifier where
  compare :=
    compareLex (compareOn rank)
      (compareLex (compareOn spelling) (compareLex (compareOn unique) (compareOn definedIn)))

instance : Std.TransOrd Identifier :=
  inferInstanceAs (Std.TransCmp
    (compareLex (compareOn rank)
      (compareLex (compareOn spelling) (compareLex (compareOn unique) (compareOn definedIn)))))

private theorem compare_eq_iff_fields
    (left right : Identifier) :
    compare left right = .eq ↔
      left.rank = right.rank ∧ left.spelling = right.spelling ∧ left.unique = right.unique ∧
        left.definedIn = right.definedIn := by
  show compareLex _ _ left right = .eq ↔ _
  simp only [compareLex_eq_eq, compareOn, Std.LawfulEqCmp.compare_eq_iff_eq]

instance : Std.LawfulEqOrd Identifier where
  eq_of_compare := by
    intro left right same
    rw [compare_eq_iff_fields] at same
    obtain ⟨ranks, spellings, uniques, modules⟩ := same
    cases left with
    | ofModule leftName =>
      cases right with
      | ofModule rightName => exact congrArg Identifier.ofModule spellings
      | ofName rightName => simp [rank] at ranks
    | ofName leftName =>
      cases right with
      | ofModule rightName => simp [rank] at ranks
      | ofName rightName =>
        obtain ⟨leftSpelling, leftUnique, leftModule⟩ := leftName
        obtain ⟨rightSpelling, rightUnique, rightModule⟩ := rightName
        simp only [spelling, unique, definedIn] at spellings uniques modules
        simp [spellings, uniques, modules]

end Identifier

end Highlight
