import Std.Data.ExtTreeSet

/-!
Contract: how an identifier occurs.

Owns: the contexts of an occurrence, their order, which of them bind a name, and
the details that a syntax tree keeps for an identifier at one place. Details of
the same identifier combine: contexts are united, and one function type is
enough.
-/

set_option autoImplicit false

namespace Highlight

inductive Declaration where
  | typeClass
  | dataType
  | constructor
  | synonym
  | family
  | patternSynonym
  | classInstance
  deriving DecidableEq, Repr

inductive Context where
  | use
  | imported
  | exported
  | valueBinding
  | patternBinding
  | matchBinding
  | typeVariableBinding
  | classMember
  | recordField
  | declared (what : Declaration)
  deriving DecidableEq, Repr

namespace Context

def all : List Context :=
  [.use, .imported, .exported, .valueBinding, .patternBinding, .matchBinding,
    .typeVariableBinding, .classMember, .recordField, .declared .typeClass, .declared .dataType,
    .declared .constructor, .declared .synonym, .declared .family, .declared .patternSynonym,
    .declared .classInstance]

def rank : Context → Nat
  | .use => 0
  | .imported => 1
  | .exported => 2
  | .valueBinding => 3
  | .patternBinding => 4
  | .matchBinding => 5
  | .typeVariableBinding => 6
  | .classMember => 7
  | .recordField => 8
  | .declared .typeClass => 9
  | .declared .dataType => 10
  | .declared .constructor => 11
  | .declared .synonym => 12
  | .declared .family => 13
  | .declared .patternSynonym => 14
  | .declared .classInstance => 15

instance : Ord Context where
  compare := compareOn rank

instance : Std.TransOrd Context :=
  inferInstanceAs (Std.TransCmp (compareOn rank))

theorem rank_injective
    {left right : Context}
    (ranks : left.rank = right.rank) :
    left = right := by
  cases left <;> cases right <;> simp_all [rank] <;> (repeat' split at ranks) <;> simp_all

instance : Std.LawfulEqOrd Context where
  eq_of_compare := by
    intro left right same
    have ranks : compare left.rank right.rank = .eq := same
    exact rank_injective (Std.LawfulEqCmp.compare_eq_iff_eq.mp ranks)

/-- The occurrence introduces the name, instead of referring to it. -/
def isBinding : Context → Bool
  | .use => false
  | .imported => false
  | .exported => false
  | _ => true

end Context

abbrev ContextSet := Std.ExtTreeSet Context

/-- What a syntax tree keeps for an identifier at one place. -/
structure Details where
  functionTyped : Bool
  contexts : ContextSet
  deriving DecidableEq

namespace Details

def empty : Details where
  functionTyped := false
  contexts := ∅

def addContext (details : Details) (context : Context) : Details :=
  { details with contexts := details.contexts.insert context }

def markFunction (details : Details) : Details :=
  { details with functionTyped := true }

def ofContexts (functionTyped : Bool) (contexts : List Context) : Details where
  functionTyped := functionTyped
  contexts := Std.ExtTreeSet.ofList contexts

def isBinding (details : Details) : Bool :=
  details.contexts.toList.any Context.isBinding

def merge (left right : Details) : Details where
  functionTyped := left.functionTyped || right.functionTyped
  contexts := left.contexts ∪ right.contexts

end Details

end Highlight
