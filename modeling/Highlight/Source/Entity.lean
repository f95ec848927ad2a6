import Highlight.Source.Identifier
import Std.Data.ExtTreeMap

/-!
Contract: what the names of other files stand for.

Owns: the entities that names are defined as, reduced to what classification
needs, and the map from a name's unique number to its entity.
-/

set_option autoImplicit false

namespace Highlight

inductive TypeFlavour where
  | dataType
  | typeClass
  | synonym
  | family
  deriving DecidableEq, Repr

inductive Entity where
  | value (functionTyped classMethod recordSelector : Bool)
  | dataConstructor
  | patternSynonym
  | typeConstructor (flavour : TypeFlavour)
  deriving DecidableEq, Repr

/-- Entities by the unique numbers of their names. -/
structure NameMap where
  entities : Std.ExtTreeMap UInt64 Entity
  deriving DecidableEq

namespace NameMap

def empty : NameMap where
  entities := ∅

/-- The map with a name's entity added, in place of one for the same name. -/
def insert (names : NameMap) (unique : UInt64) (entity : Entity) : NameMap where
  entities := names.entities.insert unique entity

def find? (names : NameMap) (unique : UInt64) : Option Entity :=
  names.entities[unique]?

def size (names : NameMap) : Nat :=
  names.entities.size

def isEmpty (names : NameMap) : Bool :=
  names.entities.isEmpty

end NameMap

end Highlight
