import Highlight.Proofs.Service.Numbering
import Mathlib.Data.List.Nodup

/-!
Contract: answers under other ids.

Owns: renamings, which pair the ids of two runs in the order in which they were
served, and what is renamed: arrays, cache entries, requests that hold an id and
answers that carry one. Writes, edits and answers depend on ids only through the
question whether two of them are equal, so they commute with a renaming that
keeps ids apart.

Does not own: the runs that are compared.
-/

set_option autoImplicit false

namespace Highlight

/-- Ids that belong together in two runs, in the order in which they were served. -/
abbrev Renaming := List (String × String)

/-- The id that belongs to a given one; an id that is not known is replaced by a spare one. -/
def Renaming.apply (pairs : Renaming) (spare : String → String) (id : String) : String :=
  (pairs.lookup id).getD (spare id)

def TokenArray.renamed (rename : String → String) (tokens : TokenArray) : TokenArray :=
  { tokens with resultId := tokens.resultId.map rename }

def CacheEntry.renamed (rename : String → String) (entry : CacheEntry) : CacheEntry :=
  { entry with tokens := entry.tokens.renamed rename }

def StoreOutcome.renamed (rename : String → String) : StoreOutcome → StoreOutcome
  | .stored previous => .stored (previous.map (TokenArray.renamed rename))
  | .superseded version => .superseded version

def RequestForm.renamed (rename : String → String) : RequestForm → RequestForm
  | .full => .full
  | .delta held => .delta (rename held)

def Answer.renamed (rename : String → String) : Answer → Answer
  | .full (.ok tokens) => .full (.ok (tokens.renamed rename))
  | .delta (.ok (.full tokens)) => .delta (.ok (.full (tokens.renamed rename)))
  | .delta (.ok (.delta edits)) =>
      .delta (.ok (.delta { edits with resultId := edits.resultId.map rename }))
  | answer => answer

/-! ### Renamings that keep the order -/

namespace Renaming

theorem lookup_eq_none_of_notMem
    {pairs : Renaming}
    {id : String}
    (unknown : id ∉ pairs.map Prod.fst) :
    pairs.lookup id = none := by
  refine List.lookup_eq_none_iff.mpr fun pair isPair => ?_
  rw [bne_iff_ne]
  rintro rfl
  exact unknown (List.mem_map_of_mem isPair)

/-- The renaming sends numerals in rising order, all below a bound, to the numerals from zero on. -/
structure Ordered (pairs : Renaming) (bound : Nat) : Prop where
  sources : ∃ numbers : List Nat, numbers.Pairwise (· < ·) ∧ (∀ number ∈ numbers, number < bound) ∧
    pairs.map Prod.fst = numbers.map Nat.repr
  targets : pairs.map Prod.snd = (List.range pairs.length).map Nat.repr
  within : pairs.length ≤ bound

namespace Ordered

theorem nil : Ordered [] 0 :=
  ⟨⟨[], List.Pairwise.nil, by simp, rfl⟩, rfl, Nat.le_refl 0⟩

variable {pairs : Renaming} {bound : Nat} (ordered : pairs.Ordered bound)
include ordered

theorem mono {later : Nat} (above : bound ≤ later) : pairs.Ordered later := by
  obtain ⟨numbers, rising, below, sources⟩ := ordered.sources
  refine ⟨⟨numbers, rising, fun number member => ?_, sources⟩, ordered.targets,
    Nat.le_trans ordered.within above⟩
  exact Nat.lt_of_lt_of_le (below number member) above

theorem nodup_sources : (pairs.map Prod.fst).Nodup := by
  obtain ⟨numbers, rising, -, sources⟩ := ordered.sources
  rw [sources]
  exact (rising.imp Nat.ne_of_lt).map _ fun _ _ different same =>
    different (Nat.repr_injective same)

theorem nodup_targets : (pairs.map Prod.snd).Nodup := by
  rw [ordered.targets]
  exact List.nodup_range.map fun _ _ same => Nat.repr_injective same

/-- The numeral of the bound is not renamed yet. -/
theorem repr_notMem : Nat.repr bound ∉ pairs.map Prod.fst := by
  obtain ⟨numbers, -, below, sources⟩ := ordered.sources
  rw [sources, List.mem_map]
  rintro ⟨number, member, same⟩
  have atBound := Nat.repr_injective same
  have isBelow := below number member
  omega

theorem extend :
    (pairs ++ [(Nat.repr bound, Nat.repr pairs.length)]).Ordered (bound + 1) := by
  obtain ⟨numbers, rising, below, sources⟩ := ordered.sources
  refine ⟨⟨numbers ++ [bound], ?_, ?_, ?_⟩, ?_, ?_⟩
  · rw [List.pairwise_append]
    refine ⟨rising, List.pairwise_singleton _ _, fun number member last isLast => ?_⟩
    rw [List.mem_singleton.mp isLast]
    exact below number member
  · intro number member
    rcases List.mem_append.mp member with before | isLast
    · exact Nat.lt_succ_of_lt (below number before)
    · rw [List.mem_singleton.mp isLast]
      exact Nat.lt_succ_self bound
  · rw [List.map_append, List.map_append, sources]
    rfl
  · rw [List.map_append, ordered.targets, List.length_append, List.length_singleton,
      List.range_succ, List.map_append]
    rfl
  · rw [List.length_append, List.length_singleton]
    exact Nat.succ_le_succ ordered.within

theorem apply_of_mem
    (spare : String → String)
    {id other : String}
    (member : (id, other) ∈ pairs) :
    pairs.apply spare id = other := by
  obtain ⟨before, after, rfl⟩ := List.append_of_mem member
  have distinct := ordered.nodup_sources
  rw [List.map_append, List.map_cons, List.nodup_middle, List.nodup_cons, List.mem_append,
    not_or] at distinct
  have found : (before ++ (id, other) :: after).lookup id = some other := by
    refine List.lookup_eq_some_iff.mpr ⟨before, after, rfl, fun pair isBefore => ?_⟩
    rw [bne_iff_ne]
    rintro rfl
    exact distinct.1.1 (List.mem_map.mpr ⟨pair, isBefore, rfl⟩)
  rw [apply, found, Option.getD_some]

/-- As long as no spare id is a target, ids that are renamed stay apart from all others. -/
theorem apply_inj
    {spare : String → String}
    (spared : ∀ held, spare held ∉ pairs.map Prod.snd)
    {id held : String}
    (known : id ∈ pairs.map Prod.fst)
    (same : pairs.apply spare id = pairs.apply spare held) :
    id = held := by
  obtain ⟨⟨_, other⟩, member, rfl⟩ := List.mem_map.mp known
  rw [ordered.apply_of_mem spare member] at same
  by_cases heldKnown : held ∈ pairs.map Prod.fst
  · obtain ⟨⟨_, heldOther⟩, heldMember, rfl⟩ := List.mem_map.mp heldKnown
    rw [ordered.apply_of_mem spare heldMember] at same
    exact congrArg Prod.fst (List.inj_on_of_nodup_map ordered.nodup_targets member heldMember same)
  · rw [apply, lookup_eq_none_of_notMem heldKnown, Option.getD_none] at same
    exact absurd (List.mem_map.mpr ⟨_, member, same⟩) (spared held)

end Ordered

/-- More renamed ids leave those that are renamed already as they are. -/
theorem apply_append_of_mem
    {pairs : Renaming}
    (added : Renaming)
    (spare : String → String)
    {id : String}
    (known : id ∈ pairs.map Prod.fst) :
    Renaming.apply (pairs ++ added) spare id = pairs.apply spare id := by
  obtain ⟨pair, member, rfl⟩ := List.mem_map.mp known
  have isSome : (pairs.lookup pair.1).isSome = true :=
    List.lookup_isSome_iff.mpr ⟨pair, member, BEq.rfl⟩
  obtain ⟨other, found⟩ := Option.isSome_iff_exists.mp isSome
  rw [apply, apply, List.lookup_append, found, Option.some_or]

/-- The first id that is renamed after the known ones. -/
theorem apply_append_cons
    {pairs : Renaming}
    (added : Renaming)
    (spare : String → String)
    {id : String}
    (unknown : id ∉ pairs.map Prod.fst)
    (other : String) :
    Renaming.apply (pairs ++ (id, other) :: added) spare id = other := by
  rw [apply, List.lookup_append, lookup_eq_none_of_notMem unknown, Option.none_or,
    List.lookup_cons_self, Option.getD_some]

end Renaming

/-! ### What a renaming leaves as it is -/

namespace Cache

variable {whole alone : Cache} {url : Url} {rename : String → String}

/-- Writes to caches that hold the same for a document, up to renaming, come to the same: either
both change nothing, or both put their array in the place of the same entry. -/
theorem store_renamed_cases
    (sameHeld : alone.entries[url]? = whole.entries[url]?.map (CacheEntry.renamed rename))
    (tokens other : TokenArray)
    (version : Option Int) :
    (alone.store url other version).1 =
        ((whole.store url tokens version).1).renamed rename ∧
      (((whole.store url tokens version).2.entries[url]? = whole.entries[url]? ∧
          (alone.store url other version).2.entries[url]? = alone.entries[url]?) ∨
        ((whole.store url tokens version).2.entries[url]? = some ⟨tokens, version⟩ ∧
          (alone.store url other version).2.entries[url]? = some ⟨other, version⟩)) := by
  cases held : whole.entries[url]? with
  | none =>
      rw [held] at sameHeld
      simp only [store, held, sameHeld, Option.map_none, Std.ExtTreeMap.getElem?_insert_self]
      exact ⟨rfl, Or.inr ⟨trivial, trivial⟩⟩
  | some entry =>
      rw [held] at sameHeld
      simp only [store, held, sameHeld, Option.map_some, CacheEntry.renamed]
      cases newerVersion? entry.version version with
      | some newer => exact ⟨rfl, Or.inl ⟨held, sameHeld⟩⟩
      | none =>
          simp only [Std.ExtTreeMap.getElem?_insert_self]
          exact ⟨rfl, Or.inr ⟨trivial, trivial⟩⟩

end Cache

/-- The edits between two arrays depend on their data only, and carry the id of the second. -/
theorem TokenArray.delta_renamed (previous current : TokenArray) (rename final : String → String) :
    (previous.renamed rename).delta (current.renamed final) =
      { previous.delta current with
        resultId := (previous.delta current).resultId.map final } := by
  obtain ⟨previousId, old⟩ := previous
  obtain ⟨currentId, new⟩ := current
  change TokenArray.delta ⟨previousId.map rename, old⟩ ⟨currentId.map final, new⟩ = _
  by_cases equal : commonStart old new = old.length ∧ commonStart old new = new.length
  · simp only [delta, if_pos equal]
  · simp only [delta, if_neg equal]

/-- Requests that differ in the id they hold have answers that differ in the id they carry, provided
that the id held is that of the array displaced in both cases or in neither. -/
theorem RequestForm.answer_renamed
    (form : RequestForm)
    (rename final : String → String)
    (tokens : TokenArray)
    (outcome : StoreOutcome)
    (decides : ∀ previous held, outcome = .stored (some previous) → form = .delta held →
      ((previous.renamed rename).resultId = some (rename held) ↔
        previous.resultId = some held)) :
    (form.renamed rename).answer (.ok (.written (tokens.renamed final) (outcome.renamed rename))) =
      (form.answer (.ok (.written tokens outcome))).renamed final := by
  match form, outcome with
  | .full, _ => rfl
  | .delta _, .superseded _ => rfl
  | .delta _, .stored none => rfl
  | .delta held, .stored (some previous) =>
      have renamedEq :
          ((RequestForm.delta held).renamed rename).answer (.ok (.written (tokens.renamed final)
              ((StoreOutcome.stored (some previous)).renamed rename))) =
            .delta (.ok ((previous.renamed rename).deltaOrFull (tokens.renamed final)
              (rename held))) := rfl
      have answerEq :
          (RequestForm.delta held).answer (.ok (.written tokens (.stored (some previous)))) =
            .delta (.ok (previous.deltaOrFull tokens held)) := rfl
      rw [renamedEq, answerEq, TokenArray.deltaOrFull, TokenArray.deltaOrFull]
      by_cases isHeld : previous.resultId = some held
      · rw [if_pos isHeld, if_pos ((decides previous held rfl rfl).mpr isHeld),
          TokenArray.delta_renamed]
        rfl
      · rw [if_neg isHeld, if_neg fun same => isHeld ((decides previous held rfl rfl).mp same)]
        rfl

/-! ### Answers that belong together -/

def Answer.paired (answer other : Answer) : Renaming :=
  match answer.resultId?, other.resultId? with
  | some id, some otherId => [(id, otherId)]
  | _, _ => []

/-- No array was served: there was nothing to serve, or serving failed. -/
def IsUnserved (outcome : Except Failure Served) : Prop :=
  outcome = .ok .nothing ∨ ∃ failure, outcome = .error failure

theorem IsUnserved.servesNothing
    {outcome : Except Failure Served}
    (unserved : IsUnserved outcome)
    (form : RequestForm) :
    (form.answer outcome).ServesNothing := by
  rcases unserved with rfl | ⟨failure, rfl⟩
  · exact form.servesNothing_of_nothing
  · exact form.servesNothing_of_error failure

/-- The answers are the same, up to an id that the renaming does not know yet. -/
def Answer.Matches (pairs : Renaming) (answer other : Answer) : Prop :=
  (answer.resultId? = none ∧ other.resultId? = none ∧ ∀ final, other = answer.renamed final) ∨
    ∃ id otherId, answer.resultId? = some id ∧ other.resultId? = some otherId ∧
      id ∉ pairs.map Prod.fst ∧
      ∀ final : String → String, final id = otherId → other = answer.renamed final

namespace Answer.Matches

/-- Requests that are served no array have the same answer, whatever id they hold. -/
theorem of_unserved
    (form : RequestForm)
    (pairs : Renaming)
    (rename : String → String)
    {outcome : Except Failure Served}
    (unserved : IsUnserved outcome) :
    (form.answer outcome).Matches pairs ((form.renamed rename).answer outcome) := by
  refine Or.inl ⟨(unserved.servesNothing form).resultId?_eq_none,
    (unserved.servesNothing (form.renamed rename)).resultId?_eq_none, fun final => ?_⟩
  cases form <;> rcases unserved with rfl | ⟨failure, rfl⟩ <;> rfl

variable {pairs : Renaming} {answer other : Answer} (matched : answer.Matches pairs other)
include matched

/-- Matching answers add one pair of ids in front, or none. -/
theorem zip_resultIds (answers others : List Answer) :
    ((answer :: answers).filterMap resultId?).zip ((other :: others).filterMap resultId?) =
      answer.paired other ++ (answers.filterMap resultId?).zip (others.filterMap resultId?) := by
  rcases matched with ⟨noId, noOtherId, -⟩ | ⟨id, otherId, hasId, hasOtherId, -⟩
  · simp [paired, noId, noOtherId]
  · simp [paired, hasId, hasOtherId]

theorem length_resultIds
    {answers others : List Answer}
    (sameLength :
      (answers.filterMap resultId?).length = (others.filterMap resultId?).length) :
    ((answer :: answers).filterMap resultId?).length =
      ((other :: others).filterMap resultId?).length := by
  rcases matched with ⟨noId, noOtherId, -⟩ | ⟨id, otherId, hasId, hasOtherId, -⟩
  · simp [noId, noOtherId, sameLength]
  · simp [hasId, hasOtherId, sameLength]

/-- Whatever is renamed later, the second answer is the first one renamed. -/
theorem eq_renamed (spare : String → String) (added : Renaming) :
    other = answer.renamed (Renaming.apply (pairs ++ (answer.paired other ++ added)) spare) := by
  rcases matched with ⟨noId, noOtherId, same⟩ | ⟨id, otherId, hasId, hasOtherId, isNew, same⟩
  · exact same _
  · refine same _ ?_
    simp only [paired, hasId, hasOtherId, List.singleton_append]
    exact Renaming.apply_append_cons added spare isNew otherId

end Answer.Matches

end Highlight
