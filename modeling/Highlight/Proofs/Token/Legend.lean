import Highlight.Proofs.Token.Encode

/-!
Contract: what the numbers of a wire token mean to a reader of the legend.

Owns: the type and the modifiers that settings ask for, reading an index and a
word of bits through the lists of names, and that every encoding made from
settings writes what they ask for. A name that the legend does not have gives
way to the kind's default, and every default is in the legend.

Does not own: which settings are in force when a token is served.
-/

set_option autoImplicit false

namespace Highlight

/-- The type that a kind is shown as: the configured one if the legend has it, or else the
default. -/
def Settings.shownType (settings : Settings) (kind : TokenKind) : String :=
  if settings.typeOf kind ∈ Legend.types then settings.typeOf kind else kind.defaultType

inductive RangedToken.ShownWith (settings : Settings) (token : RangedToken) : String → Prop where
  | declaration
      (declares : token.modifiers.declaration = true) :
      ShownWith settings token "declaration"
  | markedLibrary
      (marked : token.modifiers.defaultLibrary = true) :
      ShownWith settings token "defaultLibrary"
  | listedLibrary
      {module : String}
      (isDefinedIn : token.definedIn = some module)
      (listed : module ∈ settings.libraryModules) :
      ShownWith settings token "defaultLibrary"

/-- The numbers of a wire token all refer to the legend: the index is that of a type, and only bits
of modifiers are set. -/
structure WireToken.InLegend (wire : WireToken) : Prop where
  type_lt : wire.typeIndex.toNat < Legend.types.length
  modifier_lt : ∀ position, wire.modifierBits.toNat.testBit position = true →
    position < Legend.modifiers.length

/-- Read through the legend, a wire token has the type and exactly the modifiers that settings ask
for a token. -/
structure WireToken.Shows (wire : WireToken) (settings : Settings) (token : RangedToken) :
    Prop where
  typeName : Legend.types[wire.typeIndex.toNat]? = some (settings.shownType token.kind)
  modifierNames : ∀ position, wire.modifierBits.toNat.testBit position = true ↔
    ∃ name, Legend.modifiers[position]? = some name ∧ token.ShownWith settings name

theorem WireToken.Shows.inLegend
    {wire : WireToken}
    {settings : Settings}
    {token : RangedToken}
    (shows : wire.Shows settings token) :
    wire.InLegend := by
  refine ⟨(List.getElem?_eq_some_iff.mp shows.typeName).1, fun position isSet => ?_⟩
  obtain ⟨name, named, -⟩ := (shows.modifierNames position).mp isSet
  exact (List.getElem?_eq_some_iff.mp named).1

/-! ### Types -/

namespace Legend

/-- The index of a type finds its name. The list is short enough for the index to be exact. -/
theorem types_getElem?_of_typeIndex?
    {name : String}
    {index : UInt32}
    (found : typeIndex? name = some index) :
    types[index.toNat]? = some name := by
  obtain ⟨position, isPosition, rfl⟩ := Option.map_eq_some_iff.mp found
  obtain ⟨isBelow, isName, -⟩ := List.idxOf?_eq_some_iff.mp isPosition
  have fits : types.length < UInt32.size := by decide
  rw [UInt32.toNat_ofNat_of_lt' (Nat.lt_trans isBelow fits)]
  exact List.getElem?_eq_some_iff.mpr ⟨isBelow, isName⟩

theorem typeIndex?_eq_none_iff (name : String) : typeIndex? name = none ↔ name ∉ types := by
  rw [typeIndex?, Option.map_eq_none_iff, List.idxOf?_eq_none_iff]

theorem defaultType_mem_types (kind : TokenKind) : kind.defaultType ∈ types := by
  cases kind <;> decide

end Legend

/-- The index that an encoding gives a kind is that of the type it is to be shown as. -/
theorem Encoding.types_getElem?_ofSettings (settings : Settings) (kind : TokenKind) :
    Legend.types[((ofSettings settings).typeIndex kind).toNat]? =
      some (settings.shownType kind) := by
  rw [typeIndex_ofSettings, indexOf, Settings.shownType]
  cases configured : Legend.typeIndex? (settings.typeOf kind) with
  | some index =>
      have named := Legend.types_getElem?_of_typeIndex? configured
      rw [if_pos (List.mem_of_getElem? named)]
      exact named
  | none =>
      rw [if_neg ((Legend.typeIndex?_eq_none_iff _).mp configured)]
      cases isDefault : Legend.typeIndex? kind.defaultType with
      | none =>
          exact absurd (Legend.defaultType_mem_types kind)
            ((Legend.typeIndex?_eq_none_iff _).mp isDefault)
      | some index => exact Legend.types_getElem?_of_typeIndex? isDefault

/-! ### Modifiers -/

namespace Legend

theorem modifiers_nodup : modifiers.Nodup := by decide

/-- The bit at a position of the list is a power of two: the list is shorter than a word. -/
theorem toNat_one_shiftLeft
    {position : Nat}
    (isBelow : position < modifiers.length) :
    ((1 : UInt32) <<< UInt32.ofNat position).toNat = 2 ^ position := by
  have short : position < 32 := Nat.lt_trans isBelow (by decide)
  have power : 2 ^ position < 2 ^ 32 := Nat.pow_lt_pow_right (by decide) short
  rw [UInt32.toNat_shiftLeft, UInt32.toNat_ofNat_of_lt' (Nat.lt_trans short (by decide)),
    UInt32.toNat_one, Nat.mod_eq_of_lt short, Nat.one_shiftLeft, Nat.mod_eq_of_lt power]

/-- The bit of a modifier is set exactly where the legend has its name. -/
theorem testBit_modifierBit_iff (name : String) (position : Nat) :
    (modifierBit name).toNat.testBit position = true ↔ modifiers[position]? = some name := by
  rw [modifierBit]
  cases found : modifiers.idxOf? name with
  | none =>
      have absent : name ∉ modifiers := List.idxOf?_eq_none_iff.mp found
      exact iff_of_false (by simp) fun named => absent (List.mem_of_getElem? named)
  | some index =>
      obtain ⟨isBelow, isName, -⟩ := List.idxOf?_eq_some_iff.mp found
      have named : modifiers[index]? = some name :=
        List.getElem?_eq_some_iff.mpr ⟨isBelow, isName⟩
      show ((1 : UInt32) <<< UInt32.ofNat index).toNat.testBit position = true ↔ _
      rw [toNat_one_shiftLeft isBelow, Nat.testBit_two_pow, decide_eq_true_iff]
      constructor
      · rintro rfl
        exact named
      · exact fun same => (List.getElem?_inj isBelow modifiers_nodup).mp (named.trans same.symm)

/-- Of a modifier that may be had or not, the bit is set if it is had. -/
theorem testBit_ite_modifierBit_iff (had : Bool) (name : String) (position : Nat) :
    (if had then modifierBit name else 0).toNat.testBit position = true ↔
      had = true ∧ modifiers[position]? = some name := by
  cases had with
  | true => simp [testBit_modifierBit_iff]
  | false => simp

end Legend

namespace Encoding

theorem modifiersOf_declaration (encoding : Encoding) (token : RangedToken) :
    (encoding.modifiersOf token).declaration = token.modifiers.declaration := by
  rw [modifiersOf]
  split
  · exact Bool.or_false _
  · rfl

theorem modifiersOf_defaultLibrary_iff (encoding : Encoding) (token : RangedToken) :
    (encoding.modifiersOf token).defaultLibrary = true ↔
      token.modifiers.defaultLibrary = true ∨
        ∃ module, token.definedIn = some module ∧ module ∈ encoding.libraryModules := by
  have listed : token.definedIn.any encoding.libraryModules.contains = true ↔
      ∃ module, token.definedIn = some module ∧ module ∈ encoding.libraryModules := by
    cases token.definedIn <;> simp
  rw [← listed, modifiersOf]
  split
  · next isListed => simp [Modifiers.union, Modifiers.defaultLibraryOnly, isListed]
  · next notListed => simp [notListed]

/-- The bits that an encoding gives a token are those of the modifiers it is to be shown with. -/
theorem testBit_modifierBits_iff
    (settings : Settings)
    (token : RangedToken)
    (position : Nat) :
    ((ofSettings settings).modifierBits token).toNat.testBit position = true ↔
      ∃ name, Legend.modifiers[position]? = some name ∧ token.ShownWith settings name := by
  have bits : ((ofSettings settings).modifierBits token).toNat.testBit position = true ↔
      (token.modifiers.declaration = true ∧ Legend.modifiers[position]? = some "declaration") ∨
        ((ofSettings settings).modifiersOf token).defaultLibrary = true ∧
          Legend.modifiers[position]? = some "defaultLibrary" := by
    rw [modifierBits, UInt32.toNat_or, Nat.testBit_or, Bool.or_eq_true,
      Legend.testBit_ite_modifierBit_iff, Legend.testBit_ite_modifierBit_iff,
      modifiersOf_declaration]
  rw [bits, modifiersOf_defaultLibrary_iff]
  constructor
  · rintro (⟨declares, named⟩ | ⟨marked | ⟨module, isDefinedIn, listed⟩, named⟩)
    · exact ⟨_, named, .declaration declares⟩
    · exact ⟨_, named, .markedLibrary marked⟩
    · exact ⟨_, named, .listedLibrary isDefinedIn listed⟩
  · rintro ⟨name, named, isShown⟩
    cases isShown with
    | declaration declares => exact Or.inl ⟨declares, named⟩
    | markedLibrary marked => exact Or.inr ⟨Or.inl marked, named⟩
    | listedLibrary isDefinedIn listed => exact Or.inr ⟨Or.inr ⟨_, isDefinedIn, listed⟩, named⟩

/-! ### Token lists -/

theorem shows_wire (settings : Settings) (last : Option TokenRange) (token : RangedToken) :
    ((ofSettings settings).wire last token).Shows settings token :=
  ⟨types_getElem?_ofSettings settings token.kind, testBit_modifierBits_iff settings token⟩

/-- Every wire token of an encoded list shows a token of the list. -/
theorem exists_shows_of_encodeAfter
    {settings : Settings}
    {last : Option TokenRange}
    {tokens : List RangedToken}
    {data : List WireToken}
    (encoded : (ofSettings settings).encodeAfter last tokens = .ok data)
    {wire : WireToken}
    (member : wire ∈ data) :
    ∃ token ∈ tokens, wire.Shows settings token := by
  induction tokens generalizing last data with
  | nil =>
      cases encoded
      cases member
  | cons token rest inductionHypothesis =>
      obtain ⟨-, restData, restEncoded, rfl⟩ := (encodeAfter_cons_eq_ok_iff ..).mp encoded
      rcases List.mem_cons.mp member with rfl | inRest
      · exact ⟨token, List.mem_cons_self, shows_wire settings last token⟩
      · obtain ⟨shown, isRest, shows⟩ := inductionHypothesis restEncoded inRest
        exact ⟨shown, List.mem_cons_of_mem _ isRest, shows⟩

end Encoding

end Highlight
