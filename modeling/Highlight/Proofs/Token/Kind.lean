import Highlight.Proofs.Source.Details
import Highlight.Proofs.Source.Reference
import Highlight.Token.Collect
import Mathlib.Logic.Basic

/-!
Contract: the kind of an identifier in a document.

Owns: kinds as a relation to what occurs in a document, stated without an order
in which occurrences are met, and the agreement of the classification with it.
A name has the kind of its bindings, wherever they stand; where the document
does not bind it, that of its entity. More details never lower a kind.

Does not own: which occurrences are found in the text. Kinds do not depend on
it.
-/

set_option autoImplicit false

namespace Highlight

namespace TokenKind

theorem merge_mem_and_rank_le (left right : TokenKind) :
    (left.merge right = left ∨ left.merge right = right) ∧
      left.rank ≤ (left.merge right).rank ∧ right.rank ≤ (left.merge right).rank := by
  rw [merge]
  split
  · next below => exact ⟨Or.inr rfl, below, Nat.le_refl _⟩
  · next above => exact ⟨Or.inl rfl, Nat.le_refl _, Nat.le_of_not_le above⟩

/-- Merging kinds one after another leaves the highest of them. -/
theorem foldl_merge_mem_and_rank_le (first : TokenKind) (rest : List TokenKind) :
    rest.foldl merge first ∈ first :: rest ∧
      ∀ other ∈ first :: rest, other.rank ≤ (rest.foldl merge first).rank := by
  induction rest generalizing first with
  | nil => simp
  | cons second rest inductionHypothesis =>
      obtain ⟨isOne, firstBelow, secondBelow⟩ := merge_mem_and_rank_le first second
      obtain ⟨member, highest⟩ := inductionHypothesis (first.merge second)
      rw [List.foldl_cons]
      have mergedBelow := highest _ List.mem_cons_self
      refine ⟨?_, fun other isOther => ?_⟩
      · rcases List.mem_cons.mp member with isMerged | inRest
        · rw [isMerged]
          rcases isOne with isFirst | isSecond
          · rw [isFirst]
            exact List.mem_cons_self
          · rw [isSecond]
            exact List.mem_cons_of_mem _ List.mem_cons_self
        · exact List.mem_cons_of_mem _ (List.mem_cons_of_mem _ inRest)
      · rcases List.mem_cons.mp isOther with rfl | later
        · exact Nat.le_trans firstBelow mergedBelow
        · rcases List.mem_cons.mp later with rfl | inRest
          · exact Nat.le_trans secondBelow mergedBelow
          · exact highest other (List.mem_cons_of_mem _ inRest)

theorem highest?_eq_none_iff (kinds : List TokenKind) : highest? kinds = none ↔ kinds = [] := by
  cases kinds <;> simp [highest?]

theorem highest?_eq_some_iff (kinds : List TokenKind) (kind : TokenKind) :
    highest? kinds = some kind ↔ kind ∈ kinds ∧ ∀ other ∈ kinds, other.rank ≤ kind.rank := by
  cases kinds with
  | nil => simp [highest?]
  | cons first rest =>
      obtain ⟨member, highest⟩ := foldl_merge_mem_and_rank_le first rest
      rw [highest?, Option.some.injEq]
      constructor
      · rintro rfl
        exact ⟨member, highest⟩
      · rintro ⟨isKind, isHighest⟩
        exact rank_inj (Nat.le_antisymm (isHighest _ member) (highest _ isKind))

/-- The kind that a function type makes of another: a variable becomes a function. -/
def promoted (functionTyped : Bool) (kind : TokenKind) : TokenKind :=
  if kind = .var ∧ functionTyped = true then .function else kind

/-- Functions come right after variables, so a function type lifts a kind to that rank at least, and
does nothing else. -/
theorem rank_promoted (functionTyped : Bool) (kind : TokenKind) :
    (promoted functionTyped kind).rank = max kind.rank functionTyped.toNat := by
  cases functionTyped <;> cases kind <;> rfl

theorem rank_promoted_le
    {typed typedToo : Bool}
    (types : typed = true → typedToo = true)
    {kind higher : TokenKind}
    (ranks : kind.rank ≤ higher.rank) :
    (promoted typed kind).rank ≤ (promoted typedToo higher).rank := by
  have typeRanks : typed.toNat ≤ typedToo.toNat := by
    cases typed with
    | false => exact Nat.zero_le _
    | true => exact Nat.le_of_eq (congrArg Bool.toNat (types rfl).symm)
  rw [rank_promoted, rank_promoted]
  omega

end TokenKind

/-! ### Kinds of details -/

namespace Details

theorem kind?_eq_map_promoted (details : Details) :
    details.kind? =
      (TokenKind.highest? (details.contexts.toList.filterMap Context.kind?)).map
        (TokenKind.promoted details.functionTyped) := by
  rw [kind?]
  cases TokenKind.highest? (details.contexts.toList.filterMap Context.kind?) with
  | none => rfl
  | some kind => cases kind <;> cases details.functionTyped <;> rfl

/-- More details give a name the same kind or a higher one. -/
theorem exists_kind?_of_more
    {less more : Details}
    (contexts : ∀ context ∈ less.contexts, context ∈ more.contexts)
    (types : less.functionTyped = true → more.functionTyped = true)
    {kind : TokenKind}
    (isKind : less.kind? = some kind) :
    ∃ higher, more.kind? = some higher ∧ kind.rank ≤ higher.rank := by
  rw [kind?_eq_map_promoted, Option.map_eq_some_iff] at isKind
  obtain ⟨bound, isBound, rfl⟩ := isKind
  have given : bound ∈ more.contexts.toList.filterMap Context.kind? := by
    obtain ⟨member, -⟩ := (TokenKind.highest?_eq_some_iff _ _).mp isBound
    obtain ⟨context, inContexts, gives⟩ := List.mem_filterMap.mp member
    rw [Std.ExtTreeSet.mem_toList] at inContexts
    exact List.mem_filterMap.mpr
      ⟨context, Std.ExtTreeSet.mem_toList.mpr (contexts context inContexts), gives⟩
  rw [kind?_eq_map_promoted]
  cases isTop : TokenKind.highest? (more.contexts.toList.filterMap Context.kind?) with
  | none =>
      rw [(TokenKind.highest?_eq_none_iff _).mp isTop] at given
      cases given
  | some top =>
      have ranks := ((TokenKind.highest?_eq_some_iff _ _).mp isTop).2 bound given
      exact ⟨_, rfl, TokenKind.rank_promoted_le types ranks⟩

end Details

/-! ### Details of many occurrences -/

theorem isUnion_mergedDetails (occurrences : List Occurrence) :
    Details.IsUnion (· ∈ occurrences.map Occurrence.details) (mergedDetails occurrences) := by
  rw [mergedDetails, ← List.foldl_map]
  exact Details.isUnion_foldl_merge _

theorem mem_contexts_mergedDetails_iff (occurrences : List Occurrence) (context : Context) :
    context ∈ (mergedDetails occurrences).contexts ↔
      ∃ occurrence ∈ occurrences, context ∈ occurrence.details.contexts := by
  rw [(isUnion_mergedDetails occurrences).contexts]
  simp only [List.mem_map, exists_exists_and_eq_and]

theorem functionTyped_mergedDetails_iff (occurrences : List Occurrence) :
    (mergedDetails occurrences).functionTyped = true ↔
      ∃ occurrence ∈ occurrences, occurrence.details.functionTyped = true := by
  rw [(isUnion_mergedDetails occurrences).functionTyped]
  simp only [List.mem_map, exists_exists_and_eq_and]

/-! ### Kinds of contexts, entities and spellings -/

/-- A context binds a name as one kind. Uses, imports, exports and instances bind it as none. -/
inductive Context.Binds : Context → TokenKind → Prop where
  | typeClass : Binds (.declared .typeClass) .typeClass
  | dataType : Binds (.declared .dataType) .typeConstructor
  | constructor : Binds (.declared .constructor) .dataConstructor
  | synonym : Binds (.declared .synonym) .typeSynonym
  | family : Binds (.declared .family) .typeFamily
  | patternSynonym : Binds (.declared .patternSynonym) .patternSynonym
  | classMember : Binds .classMember .classMethod
  | field : Binds .recordField .recordField
  | typeVariable : Binds .typeVariableBinding .typeVariable
  | value : Binds .valueBinding .var
  | pattern : Binds .patternBinding .var
  | equation : Binds .matchBinding .function

theorem Context.binds_iff (context : Context) (kind : TokenKind) :
    context.Binds kind ↔ context.kind? = some kind := by
  constructor
  · rintro ⟨⟩ <;> rfl
  · intro gives
    cases context with
    | declared what => cases what <;> cases gives <;> constructor
    | _ => cases gives <;> constructor

/-- What an entity of another file is defined as. A value that is several things is a record field
before it is a class method, and a class method before it is a function. -/
inductive Entity.DefinedAs : Entity → TokenKind → Prop where
  | field (functionTyped classMethod : Bool) :
      DefinedAs (.value functionTyped classMethod true) .recordField
  | classMember (functionTyped : Bool) : DefinedAs (.value functionTyped true false) .classMethod
  | function : DefinedAs (.value true false false) .function
  | plainValue : DefinedAs (.value false false false) .var
  | constructor : DefinedAs .dataConstructor .dataConstructor
  | patternSynonym : DefinedAs .patternSynonym .patternSynonym
  | dataType : DefinedAs (.typeConstructor .dataType) .typeConstructor
  | typeClass : DefinedAs (.typeConstructor .typeClass) .typeClass
  | synonym : DefinedAs (.typeConstructor .synonym) .typeSynonym
  | family : DefinedAs (.typeConstructor .family) .typeFamily

theorem Entity.definedAs_kind (entity : Entity) : entity.DefinedAs entity.kind := by
  cases entity with
  | value functionTyped classMethod recordSelector =>
      cases recordSelector <;> cases classMethod <;> cases functionTyped <;> constructor
  | dataConstructor => exact .constructor
  | patternSynonym => exact .patternSynonym
  | typeConstructor flavour => cases flavour <;> constructor

theorem Entity.definedAs_iff (entity : Entity) (kind : TokenKind) :
    entity.DefinedAs kind ↔ entity.kind = kind := by
  constructor
  · rintro ⟨⟩ <;> rfl
  · rintro rfl
    exact entity.definedAs_kind

theorem TokenKind.forSymbols_eq (kind : TokenKind) :
    kind.forSymbols =
      if kind = .var ∨ kind = .function ∨ kind = .classMethod then .operator else kind := by
  cases kind <;> rfl

theorem classify_symbolic (found : Option Details) (entity : Option Entity) :
    classify found entity true = (classify found entity false).forSymbols :=
  rfl

/-- The first character of a name is no part of a word. An empty name has none. -/
def Name.StartsWithSymbol (name : Name) : Prop :=
  ∃ first rest, name.spelling.toList = first :: rest ∧
    Text.isAlphanumeric first = false ∧ first ≠ '_' ∧ first ≠ '\''

theorem Name.isSymbolic_iff (name : Name) : name.isSymbolic = true ↔ name.StartsWithSymbol := by
  rw [isSymbolic, StartsWithSymbol]
  cases name.spelling.toList with
  | nil => simp
  | cons first rest => simp [startsWord, and_assoc]

theorem Name.isSymbolic_eq_false_iff (name : Name) :
    name.isSymbolic = false ↔ ¬ name.StartsWithSymbol := by
  rw [← isSymbolic_iff, Bool.not_eq_true]

/-! ### Kinds as a relation -/

/-- Which identifiers occur in a document, and how. -/
abbrev Occurs := Identifier → Occurrence → Prop

/-- An identifier occurs at a node of the tree, with the details that the node keeps for it. -/
def Node.Holds (root : Node) : Occurs := fun identifier occurrence =>
  ∃ node ∈ root.nodes,
    node.identifiers[identifier]? = some occurrence.details ∧ occurrence.span = node.span

/-- What occurs in a tree is what its reference map lists. -/
theorem Node.holds_iff_mem_listed
    (root : Node)
    (identifier : Identifier)
    (occurrence : Occurrence) :
    root.Holds identifier occurrence ↔ occurrence ∈ root.references.listed identifier := by
  rw [Holds, ← mem_occurrences_iff, listed_references, List.mem_map]
  constructor
  · intro member
    exact ⟨(identifier, occurrence), List.mem_filter.mpr ⟨member, decide_eq_true rfl⟩, rfl⟩
  · rintro ⟨⟨other, _⟩, filtered, rfl⟩
    obtain ⟨member, isOther⟩ := List.mem_filter.mp filtered
    obtain rfl : other = identifier := of_decide_eq_true isOther
    exact member

namespace Occurs

variable (occurs : Occurs) (names : NameMap)

def Gives (identifier : Identifier) (kind : TokenKind) : Prop :=
  ∃ occurrence context, occurs identifier occurrence ∧ context ∈ occurrence.details.contexts ∧
    context.Binds kind

/-- The kind is the highest that the contexts of the identifier give. -/
def BoundAs (identifier : Identifier) (kind : TokenKind) : Prop :=
  occurs.Gives identifier kind ∧ ∀ other, occurs.Gives identifier other → other.rank ≤ kind.rank

def FunctionTyped (identifier : Identifier) : Prop :=
  ∃ occurrence, occurs identifier occurrence ∧ occurrence.details.functionTyped = true

/-- The kind of a name as such, whatever it is made of. -/
inductive NameKind (name : Name) : TokenKind → Prop where
  | bound (kind : TokenKind) (highest : occurs.BoundAs (.ofName name) kind)
      (notVariable : kind ≠ .var) : NameKind name kind
  | boundVariable (highest : occurs.BoundAs (.ofName name) .var)
      (untyped : ¬ occurs.FunctionTyped (.ofName name)) : NameKind name .var
  | boundFunction (highest : occurs.BoundAs (.ofName name) .var)
      (typed : occurs.FunctionTyped (.ofName name)) : NameKind name .function
  | listed (entity : Entity) (kind : TokenKind)
      (unbound : ∀ kind, ¬ occurs.Gives (.ofName name) kind)
      (isListed : names.find? name.unique = some entity)
      (defined : entity.DefinedAs kind) : NameKind name kind
  | unknown (unbound : ∀ kind, ¬ occurs.Gives (.ofName name) kind)
      (unlisted : names.find? name.unique = none) : NameKind name .var

/-- The kind of an identifier. Variables, functions and class methods that are spelled with symbols
are operators; constructors, types and fields remain what they are. -/
inductive HasKind : Identifier → TokenKind → Prop where
  | ofModule (name : String) : HasKind (.ofModule name) .moduleName
  | ofWord (name : Name) (kind : TokenKind) (isWord : ¬ name.StartsWithSymbol)
      (nameKind : occurs.NameKind names name kind) : HasKind (.ofName name) kind
  | operator (name : Name) (kind : TokenKind) (isSymbolic : name.StartsWithSymbol)
      (nameKind : occurs.NameKind names name kind)
      (isValue : kind = .var ∨ kind = .function ∨ kind = .classMethod) :
      HasKind (.ofName name) .operator
  | ofSymbols (name : Name) (kind : TokenKind) (isSymbolic : name.StartsWithSymbol)
      (nameKind : occurs.NameKind names name kind)
      (notValue : ¬ (kind = .var ∨ kind = .function ∨ kind = .classMethod)) :
      HasKind (.ofName name) kind

/-! ### Agreement with the classification -/

variable {occurs names} {identifier : Identifier} {occurrences : List Occurrence}

theorem mem_given_iff
    (listed : ∀ occurrence, occurs identifier occurrence ↔ occurrence ∈ occurrences)
    (kind : TokenKind) :
    kind ∈ (mergedDetails occurrences).contexts.toList.filterMap Context.kind? ↔
      occurs.Gives identifier kind := by
  simp only [List.mem_filterMap, Std.ExtTreeSet.mem_toList, mem_contexts_mergedDetails_iff, Gives,
    Context.binds_iff, listed]
  constructor
  · rintro ⟨context, ⟨occurrence, member, inContexts⟩, gives⟩
    exact ⟨occurrence, context, member, inContexts, gives⟩
  · rintro ⟨occurrence, context, member, inContexts, gives⟩
    exact ⟨context, ⟨occurrence, member, inContexts⟩, gives⟩

theorem highest?_eq_some_iff_boundAs
    (listed : ∀ occurrence, occurs identifier occurrence ↔ occurrence ∈ occurrences)
    (kind : TokenKind) :
    TokenKind.highest? ((mergedDetails occurrences).contexts.toList.filterMap Context.kind?) =
        some kind ↔
      occurs.BoundAs identifier kind := by
  simp only [TokenKind.highest?_eq_some_iff, mem_given_iff listed, BoundAs]

theorem highest?_eq_none_iff_unbound
    (listed : ∀ occurrence, occurs identifier occurrence ↔ occurrence ∈ occurrences) :
    TokenKind.highest? ((mergedDetails occurrences).contexts.toList.filterMap Context.kind?) =
        none ↔
      ∀ kind, ¬ occurs.Gives identifier kind := by
  simp only [TokenKind.highest?_eq_none_iff, List.eq_nil_iff_forall_not_mem, mem_given_iff listed]

theorem functionTyped_iff
    (listed : ∀ occurrence, occurs identifier occurrence ↔ occurrence ∈ occurrences) :
    (mergedDetails occurrences).functionTyped = true ↔ occurs.FunctionTyped identifier := by
  simp only [functionTyped_mergedDetails_iff, FunctionTyped, listed]

/-- A name has the kind that it is classified as, and no other. -/
theorem nameKind_iff
    {name : Name}
    (listed : ∀ occurrence, occurs (.ofName name) occurrence ↔ occurrence ∈ occurrences)
    (kind : TokenKind) :
    occurs.NameKind names name kind ↔
      classify (some (mergedDetails occurrences)) (names.find? name.unique) false = kind := by
  have boundIff := highest?_eq_some_iff_boundAs listed
  have unboundIff := highest?_eq_none_iff_unbound listed
  have typedIff := functionTyped_iff listed
  simp only [classify, Option.bind_some, Details.kind?, Bool.false_eq_true, ↓reduceIte]
  constructor
  · intro hasKind
    cases hasKind with
    | bound _ highest notVariable =>
        rw [(boundIff kind).mpr highest]
        cases kind <;> first | rfl | exact absurd rfl notVariable
    | boundVariable highest untyped =>
        rw [(boundIff .var).mpr highest]
        simp [typedIff, untyped]
    | boundFunction highest typed =>
        rw [(boundIff .var).mpr highest]
        simp [typedIff, typed]
    | listed entity _ unbound isListed defined =>
        rw [unboundIff.mpr unbound, isListed, ← (entity.definedAs_iff kind).mp defined]
        rfl
    | unknown unbound unlisted =>
        rw [unboundIff.mpr unbound, unlisted]
        rfl
  · rintro rfl
    cases highest : TokenKind.highest?
        ((mergedDetails occurrences).contexts.toList.filterMap Context.kind?) with
    | none =>
        have unbound := unboundIff.mp highest
        cases isListed : names.find? name.unique with
        | none => exact .unknown unbound isListed
        | some entity => exact .listed entity _ unbound isListed entity.definedAs_kind
    | some kind =>
        have bound := (boundIff kind).mp highest
        by_cases isVariable : kind = .var
        · subst isVariable
          by_cases typed : (mergedDetails occurrences).functionTyped = true
          · simp only [typed]
            exact .boundFunction bound (typedIff.mp typed)
          · simp only [typed]
            exact .boundVariable bound (fun isTyped => typed (typedIff.mpr isTyped))
        · cases kind <;> first
            | exact absurd rfl isVariable
            | exact .bound _ bound isVariable

/-- A name has the kind that it is classified as under its spelling, and no other. -/
theorem hasKind_ofName_iff
    {name : Name}
    (listed : ∀ occurrence, occurs (.ofName name) occurrence ↔ occurrence ∈ occurrences)
    (kind : TokenKind) :
    occurs.HasKind names (.ofName name) kind ↔
      classify (some (mergedDetails occurrences)) (names.find? name.unique) name.isSymbolic =
        kind := by
  constructor
  · intro hasKind
    cases hasKind with
    | ofWord _ _ isWord nameKind =>
        rw [name.isSymbolic_eq_false_iff.mpr isWord]
        exact (nameKind_iff listed kind).mp nameKind
    | operator _ base isSymbolic nameKind isValue =>
        rw [name.isSymbolic_iff.mpr isSymbolic, classify_symbolic,
          (nameKind_iff listed base).mp nameKind, TokenKind.forSymbols_eq, if_pos isValue]
    | ofSymbols _ _ isSymbolic nameKind notValue =>
        rw [name.isSymbolic_iff.mpr isSymbolic, classify_symbolic,
          (nameKind_iff listed kind).mp nameKind, TokenKind.forSymbols_eq, if_neg notValue]
  · rintro rfl
    have nameKind : occurs.NameKind names name _ := (nameKind_iff listed _).mpr rfl
    by_cases isSymbolic : name.StartsWithSymbol
    · rw [name.isSymbolic_iff.mpr isSymbolic, classify_symbolic, TokenKind.forSymbols_eq]
      split
      · next isValue => exact .operator name _ isSymbolic nameKind isValue
      · next notValue => exact .ofSymbols name _ isSymbolic nameKind notValue
    · rw [name.isSymbolic_eq_false_iff.mpr isSymbolic]
      exact .ofWord name _ isSymbolic nameKind

/-- An identifier has the kind that it is classified as, and no other. -/
theorem hasKind_iff
    (listed : ∀ occurrence, occurs identifier occurrence ↔ occurrence ∈ occurrences)
    (kind : TokenKind) :
    occurs.HasKind names identifier kind ↔ identifier.kind names occurrences = kind := by
  cases identifier with
  | ofModule name =>
      rw [Identifier.kind]
      constructor
      · rintro ⟨⟩
        rfl
      · rintro rfl
        exact .ofModule name
  | ofName name => exact hasKind_ofName_iff listed kind

end Occurs

/-- In a tree, every identifier has one kind, that of all its occurrences together. -/
theorem Node.hasKind_iff
    (root : Node)
    (names : NameMap)
    (identifier : Identifier)
    (kind : TokenKind) :
    root.Holds.HasKind names identifier kind ↔
      identifier.kind names (root.references.listed identifier) = kind :=
  Occurs.hasKind_iff (root.holds_iff_mem_listed identifier) kind

end Highlight
