import Highlight.Source.Context
import Highlight.Source.Entity

/-!
Contract: token kinds and the classification of names.

Owns: the kinds in order of precedence, tables with a slot for each of them, the
kind that each context and each entity gives a name, and the rule that combines
them. What the file itself binds wins over the name map; a name found in neither
is a variable; a name made of symbols is an operator, unless it stands for a
constructor, a type or a field.
-/

set_option autoImplicit false

namespace Highlight

/-- What a name is, lowest precedence first. -/
inductive TokenKind where
  | var
  | function
  | dataConstructor
  | typeVariable
  | classMethod
  | patternSynonym
  | typeConstructor
  | typeClass
  | typeSynonym
  | typeFamily
  | recordField
  | operator
  | moduleName
  deriving DecidableEq, Repr

namespace TokenKind

def all : List TokenKind :=
  [.var, .function, .dataConstructor, .typeVariable, .classMethod, .patternSynonym,
    .typeConstructor, .typeClass, .typeSynonym, .typeFamily, .recordField, .operator, .moduleName]

theorem mem_all (kind : TokenKind) : kind ∈ all := by
  cases kind <;> decide

def rank : TokenKind → Nat
  | .var => 0
  | .function => 1
  | .dataConstructor => 2
  | .typeVariable => 3
  | .classMethod => 4
  | .patternSynonym => 5
  | .typeConstructor => 6
  | .typeClass => 7
  | .typeSynonym => 8
  | .typeFamily => 9
  | .recordField => 10
  | .operator => 11
  | .moduleName => 12

/-- The rank of a kind is its position. -/
theorem all_getElem?_rank (kind : TokenKind) : all[kind.rank]? = some kind := by
  cases kind <;> rfl

theorem rank_inj
    {left right : TokenKind}
    (ranks : left.rank = right.rank) :
    left = right := by
  have atRank := left.all_getElem?_rank
  rw [ranks, right.all_getElem?_rank] at atRank
  exact (Option.some.inj atRank).symm

def count : Nat := 13

theorem rank_lt_count (kind : TokenKind) : kind.rank < count := by
  cases kind <;> decide

theorem exists_rank_eq
    {slot : Nat}
    (slotLt : slot < count) :
    ∃ kind : TokenKind, kind.rank = slot := by
  have ranks : all.map rank = List.range count := rfl
  have isRank : slot ∈ all.map rank := by
    rw [ranks]
    exact List.mem_range.mpr slotLt
  obtain ⟨kind, -, rankEq⟩ := List.mem_map.mp isRank
  exact ⟨kind, rankEq⟩

def label : TokenKind → String
  | .var => "Variable"
  | .function => "Function"
  | .dataConstructor => "DataConstructor"
  | .typeVariable => "TypeVariable"
  | .classMethod => "ClassMethod"
  | .patternSynonym => "PatternSynonym"
  | .typeConstructor => "TypeConstructor"
  | .typeClass => "Class"
  | .typeSynonym => "TypeSynonym"
  | .typeFamily => "TypeFamily"
  | .recordField => "RecordField"
  | .operator => "Operator"
  | .moduleName => "Module"

def ofLabel? (label : String) : Option TokenKind :=
  all.find? (·.label == label)

/-- Of two kinds of one name, the one with the higher precedence. -/
def merge (left right : TokenKind) : TokenKind :=
  if left.rank ≤ right.rank then right else left

def highest? : List TokenKind → Option TokenKind
  | [] => none
  | first :: rest => some (rest.foldl merge first)

/-- The kind of a name made of symbols: whether it is a variable, a function or a method, it is
shown as an operator. -/
def forSymbols : TokenKind → TokenKind
  | .var => .operator
  | .function => .operator
  | .classMethod => .operator
  | kind => kind

end TokenKind

/-- A value for every kind, each in the slot of its rank. -/
structure KindTable (α : Type) where
  slots : Vector α TokenKind.count
  deriving DecidableEq

namespace KindTable

variable {α : Type}

def get (table : KindTable α) (kind : TokenKind) : α :=
  have inTable := kind.rank_lt_count
  table.slots[kind.rank]

def set (table : KindTable α) (kind : TokenKind) (value : α) : KindTable α where
  slots := table.slots.set kind.rank value kind.rank_lt_count

/-- The table in which each of some kinds has got its own value, one after another. -/
def setAll (valueOf : TokenKind → α) (kinds : List TokenKind) (table : KindTable α) :
    KindTable α :=
  kinds.foldl (fun filled kind => filled.set kind (valueOf kind)) table

/-- All slots start with one value and are then filled kind by kind. -/
def filled (start : α) (valueOf : TokenKind → α) : KindTable α :=
  setAll valueOf TokenKind.all ⟨Vector.replicate TokenKind.count start⟩

theorem get_set (table : KindTable α) (kind other : TokenKind) (value : α) :
    (table.set kind value).get other = if kind = other then value else table.get other := by
  have sameSlot : kind.rank = other.rank ↔ kind = other :=
    ⟨TokenKind.rank_inj, congrArg TokenKind.rank⟩
  simp only [get, set, Vector.getElem_set, sameSlot]

/-- No later kind overwrites the slot of an earlier one. -/
theorem get_setAll
    (valueOf : TokenKind → α)
    (kinds : List TokenKind)
    (table : KindTable α)
    (kind : TokenKind) :
    (setAll valueOf kinds table).get kind =
      if kind ∈ kinds then valueOf kind else table.get kind := by
  induction kinds generalizing table with
  | nil => rfl
  | cons first rest inductionHypothesis =>
      rw [setAll, List.foldl_cons, ← setAll, inductionHypothesis, get_set]
      by_cases isFirst : first = kind
      · simp [isFirst]
      · simp [isFirst, Ne.symm isFirst]

/-- Every kind reads back what it was filled with, and the start shows nowhere. -/
@[simp] theorem get_filled (start : α) (valueOf : TokenKind → α) (kind : TokenKind) :
    (filled start valueOf).get kind = valueOf kind := by
  rw [filled, get_setAll, if_pos kind.mem_all]

/-- Every slot is that of a kind, so tables differ only where some kind reads them differently. -/
theorem ext_get
    {left right : KindTable α}
    (same : ∀ kind, left.get kind = right.get kind) :
    left = right := by
  have sameSlots : left.slots = right.slots := by
    apply Vector.ext
    intro slot slotLt
    obtain ⟨kind, rfl⟩ : ∃ kind : TokenKind, kind.rank = slot := TokenKind.exists_rank_eq slotLt
    exact same kind
  cases left
  cases right
  exact congrArg KindTable.mk sameSlots

end KindTable

def Context.kind? : Context → Option TokenKind
  | .declared .typeClass => some .typeClass
  | .declared .dataType => some .typeConstructor
  | .declared .constructor => some .dataConstructor
  | .declared .synonym => some .typeSynonym
  | .declared .family => some .typeFamily
  | .declared .patternSynonym => some .patternSynonym
  | .declared .classInstance => none
  | .classMember => some .classMethod
  | .recordField => some .recordField
  | .typeVariableBinding => some .typeVariable
  | .valueBinding => some .var
  | .patternBinding => some .var
  | .matchBinding => some .function
  | .use => none
  | .imported => none
  | .exported => none

/-- The kind that the file's own contexts give a name: the highest of them, a variable with a
function type being a function. -/
def Details.kind? (details : Details) : Option TokenKind :=
  match TokenKind.highest? (details.contexts.toList.filterMap Context.kind?) with
  | some .var => some (if details.functionTyped then .function else .var)
  | found => found

def Entity.kind : Entity → TokenKind
  | .value functionTyped classMethod recordSelector =>
      if recordSelector then .recordField
      else if classMethod then .classMethod
      else if functionTyped then .function
      else .var
  | .dataConstructor => .dataConstructor
  | .patternSynonym => .patternSynonym
  | .typeConstructor .dataType => .typeConstructor
  | .typeConstructor .typeClass => .typeClass
  | .typeConstructor .synonym => .typeSynonym
  | .typeConstructor .family => .typeFamily

/-- The kind of a name from what its own file and the name map say of it. -/
def classify (found : Option Details) (entity : Option Entity) (symbolic : Bool) : TokenKind :=
  let kind := ((found.bind Details.kind?).or (entity.map Entity.kind)).getD .var
  if symbolic then kind.forSymbols else kind

end Highlight
