/-!
Contract: modifiers of tokens.

Owns: the two modifiers that a token can have and their set operations.
-/

set_option autoImplicit false

namespace Highlight

/-- A set of modifiers: the occurrence binds its name; the name comes from a default library. -/
structure Modifiers where
  declaration : Bool
  defaultLibrary : Bool
  deriving DecidableEq, Repr

namespace Modifiers

def none : Modifiers where
  declaration := false
  defaultLibrary := false

def declarationOnly : Modifiers where
  declaration := true
  defaultLibrary := false

def defaultLibraryOnly : Modifiers where
  declaration := false
  defaultLibrary := true

def union (left right : Modifiers) : Modifiers where
  declaration := left.declaration || right.declaration
  defaultLibrary := left.defaultLibrary || right.defaultLibrary

def contains (left right : Modifiers) : Bool :=
  (left.declaration || !right.declaration) && (left.defaultLibrary || !right.defaultLibrary)

def isEmpty (modifiers : Modifiers) : Bool :=
  !modifiers.declaration && !modifiers.defaultLibrary

end Modifiers

end Highlight
