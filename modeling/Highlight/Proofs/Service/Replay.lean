import Highlight.Proofs.Service.Client
import Highlight.Proofs.Service.Latest
import Highlight.Proofs.Service.Memo

/-!
Contract: what the rule answers over a whole run of calls.

Owns: runs of calls and invalidations, the history that they leave, and two
invariants of the memo: it holds for each document the latest call that settled
something, and every output in it was computed from the artifacts of some call.
The first says when an output is replayed, the second that nothing stale is
replayed as long as equal fingerprints come with equal artifacts.

A supplier may break off in the middle of a call. Such a call settles nothing.
-/

set_option autoImplicit false

namespace Highlight

/-! ### Runs of the rule -/

/-- What is done with the rule: tokens asked for, with the supplier of the moment, or a document
invalidated. -/
inductive RuleAction where
  | ask (supplier : Supplier) (url : Url)
  | invalidate (url : Url)

structure Call where
  supplier : Supplier
  url : Url
  output : RuleOutput

inductive RuleRecord where
  | called (call : Call)
  | invalidated (url : Url)

def Supply.ofOption {α : Type} : Option α → Supply α
  | some artifact => .present artifact
  | none => .absent

/-- The fingerprints that a call sees, if the supplier has both the tree and the names. -/
def Supplier.fingerprints? (supplier : Supplier) (url : Url) : Option Fingerprints :=
  match supplier.tree url, supplier.names url with
  | .present tree, .present names => some ⟨tree.fingerprint, names.fingerprint⟩
  | _, _ => none

/-- The call found both the tree and the names, was not broken off, and did not end for want of the
text. -/
def Call.Settles (call : Call) : Prop :=
  (call.supplier.fingerprints? call.url).isSome ∧ call.output.isLasting = true ∧
    ∀ cause, call.output ≠ .error (.internal (.interrupted cause))

namespace RuleRecord

def SettlesAt (url : Url) : RuleRecord → Prop
  | .called call => call.url = url ∧ call.Settles
  | .invalidated _ => False

def InvalidatesAt (url : Url) : RuleRecord → Prop
  | .called _ => False
  | .invalidated other => other = url

end RuleRecord

/-- The call is the most recent one of its document, since the document was last invalidated, that
settled something. -/
def Call.LastIn (call : Call) (history : List RuleRecord) : Prop :=
  IsLatest (RuleRecord.SettlesAt call.url) (RuleRecord.InvalidatesAt call.url) history
    (.called call)

namespace Memo

def follow (memo : Memo) : RuleAction → Memo
  | .ask supplier url => (memo.tokens supplier url).memo
  | .invalidate url => memo.invalidate url

def record (memo : Memo) : RuleAction → RuleRecord
  | .ask supplier url => .called ⟨supplier, url, (memo.tokens supplier url).output⟩
  | .invalidate url => .invalidated url

theorem record_ask
    {memo : Memo}
    {call : Call}
    (outputEq : (memo.tokens call.supplier call.url).output = call.output) :
    memo.record (.ask call.supplier call.url) = .called call := by
  rw [record, outputEq]

def after (memo : Memo) : List RuleAction → Memo
  | [] => memo
  | action :: rest => (memo.follow action).after rest

def history (memo : Memo) : List RuleAction → List RuleRecord
  | [] => []
  | action :: rest => memo.record action :: (memo.follow action).history rest

/-- What holds of a memo before any action, and is kept by every action, holds after every run. -/
theorem run_induction
    (Holds : List RuleAction → List RuleRecord → Memo → Prop)
    (memo : Memo)
    (atStart : Holds [] [] memo)
    (kept : ∀ actions history current action, Holds actions history current →
      Holds (actions ++ [action]) (history ++ [current.record action]) (current.follow action))
    (actions : List RuleAction) :
    Holds actions (memo.history actions) (memo.after actions) := by
  have fromHere : ∀ (rest past : List RuleAction) (history : List RuleRecord) (current : Memo),
      Holds past history current →
        Holds (past ++ rest) (history ++ current.history rest) (current.after rest) := by
    intro rest
    induction rest with
    | nil =>
        intro past history current holds
        rwa [Memo.history, after, List.append_nil, List.append_nil]
    | cons action others inductionHypothesis =>
        intro past history current holds
        have next := inductionHypothesis _ _ _ (kept past history current action holds)
        rwa [List.append_assoc, List.append_assoc] at next
  exact fromHere actions [] [] memo atStart

/-! ### One call -/

section Call

variable {memo : Memo} {supplier : Supplier} {url : Url} {tree : Snapshot AnnotatedTree}
  {names : Snapshot NameMap}

theorem tokens_of_no_tree (noTree : supplier.tree url = .absent) :
    memo.tokens supplier url = memo.refuse url [.tree] (.noTree url.href) := by
  rw [tokens, noTree]

theorem tokens_of_no_names
    (hasTree : supplier.tree url = .present tree)
    (noNames : supplier.names url = .absent) :
    memo.tokens supplier url = memo.refuse url [.tree, .names] (.noNames url.href) := by
  rw [tokens, hasTree, noNames]

theorem tokens_of_found
    (hasTree : supplier.tree url = .present tree)
    (hasNames : supplier.names url = .present names)
    {output : RuleOutput}
    (found : memo.find? url ⟨tree.fingerprint, names.fingerprint⟩ = some output) :
    memo.tokens supplier url = ⟨output, true, [.tree, .names], [.reusing url], memo⟩ := by
  rw [tokens, hasTree, hasNames]
  simp only [found]

theorem tokens_of_not_found
    (hasTree : supplier.tree url = .present tree)
    (hasNames : supplier.names url = .present names)
    (notFound : memo.find? url ⟨tree.fingerprint, names.fingerprint⟩ = none)
    {document : Option Document}
    (documentEq : supplier.document url = .ofOption document) :
    memo.tokens supplier url = memo.compute url tree names document := by
  rw [tokens, hasTree, hasNames]
  cases document <;> simp only [notFound, documentEq, Supply.ofOption]

theorem find?_eq_some_iff
    (fingerprints : Fingerprints)
    (output : RuleOutput) :
    memo.find? url fingerprints = some output ↔
      memo.entries[url]? = some ⟨fingerprints, output⟩ := by
  rw [find?]
  cases memo.entries[url]? with
  | none => simp
  | some entry =>
      obtain ⟨ownFingerprints, ownOutput⟩ := entry
      by_cases same : ownFingerprints = fingerprints <;> simp [same]

theorem fingerprints?_eq_some
    (hasTree : supplier.tree url = .present tree)
    (hasNames : supplier.names url = .present names) :
    supplier.fingerprints? url = some ⟨tree.fingerprint, names.fingerprint⟩ := by
  rw [Supplier.fingerprints?, hasTree, hasNames]

theorem entries_invalidate (memo : Memo) (url other : Url) :
    (memo.invalidate url).entries[other]? =
      if url = other then none else memo.entries[other]? := by
  rw [invalidate, Std.ExtTreeMap.getElem?_erase]
  simp only [Std.LawfulEqCmp.compare_eq_iff_eq]

theorem entries_remember_of_lasting
    (memo : Memo)
    (url other : Url)
    (fingerprints : Fingerprints)
    {output : RuleOutput}
    (lasting : output.isLasting = true) :
    (memo.remember url fingerprints output).entries[other]? =
      if url = other then some ⟨fingerprints, output⟩ else memo.entries[other]? := by
  rw [remember, if_pos lasting, Std.ExtTreeMap.getElem?_insert]
  simp only [Std.LawfulEqCmp.compare_eq_iff_eq]

theorem remember_of_not_lasting
    (memo : Memo)
    (url : Url)
    (fingerprints : Fingerprints)
    {output : RuleOutput}
    (passing : ¬ output.isLasting = true) :
    memo.remember url fingerprints output = memo := by
  rw [remember, if_neg passing]

end Call

end Memo

/-! ### What one call does to the memo -/

/-- The entry holds the output that was computed from the artifacts a supplier has for a
document. -/
structure MemoEntry.ComputedFrom (entry : MemoEntry) (supplier : Supplier) (url : Url)
    (tree : Snapshot AnnotatedTree) (names : Snapshot NameMap) (document : Option Document) :
    Prop where
  hasTree : supplier.tree url = .present tree
  hasNames : supplier.names url = .present names
  documentEq : supplier.document url = .ofOption document
  fingerprints : entry.fingerprints = ⟨tree.fingerprint, names.fingerprint⟩
  output : entry.output = computeTokens url tree.content names.content document
  lasting : entry.output.isLasting = true

theorem MemoEntry.ComputedFrom.output_ne_interrupted
    {entry : MemoEntry}
    {supplier : Supplier}
    {url : Url}
    {tree : Snapshot AnnotatedTree}
    {names : Snapshot NameMap}
    {document : Option Document}
    (computed : entry.ComputedFrom supplier url tree names document)
    (cause : String) :
    entry.output ≠ .error (.internal (.interrupted cause)) := by
  intro interrupted
  have servable := servable_computeTokens url tree.content names.content document
  rw [← computed.output, interrupted] at servable
  cases servable

namespace Memo

/-- A call settles nothing and leaves the memo alone, finds its output there, or computes one that
takes the place of whatever the document had. -/
theorem ask_cases (memo : Memo) (supplier : Supplier) (url : Url) :
    let step := memo.tokens supplier url
    (step.memo = memo ∧ ¬ Call.Settles ⟨supplier, url, step.output⟩) ∨
      (step.memo = memo ∧ ∃ fingerprints, supplier.fingerprints? url = some fingerprints ∧
        memo.entries[url]? = some ⟨fingerprints, step.output⟩) ∨
      ∃ entry tree names document,
        entry.ComputedFrom supplier url tree names document ∧ step.output = entry.output ∧
          ∀ other, step.memo.entries[other]? =
            if url = other then some entry else memo.entries[other]? := by
  intro step
  rcases memo.tokens_cases supplier url with
    ⟨cause, asked, events, -, interrupted⟩ | ⟨asked, failure, missing, refused⟩ |
      ⟨tree, names, hasTree, hasNames, ⟨output, found, reused⟩ | ⟨-, document, given, computed⟩⟩
  · simp only [step, interrupted]
    exact Or.inl ⟨rfl, fun settles => settles.2.2 cause rfl⟩
  · simp only [step, refused]
    refine Or.inl ⟨rfl, fun settles => ?_⟩
    have unseen : supplier.fingerprints? url = none := by
      rcases missing with ⟨noTree, -⟩ | ⟨⟨tree, hasTree⟩, noNames, -⟩
      · rw [Supplier.fingerprints?, noTree]
      · rw [Supplier.fingerprints?, hasTree, noNames]
    have seen := settles.1
    rw [unseen] at seen
    cases seen
  · simp only [step, reused]
    exact Or.inr (Or.inl ⟨trivial, _, fingerprints?_eq_some hasTree hasNames,
      (find?_eq_some_iff _ _).mp found⟩)
  · simp only [step, computed, compute]
    have documentEq : supplier.document url = .ofOption document := by
      rcases given with ⟨absent, rfl⟩ | ⟨present, isPresent, rfl⟩
      · exact absent
      · exact isPresent
    by_cases lasting :
        (computeTokens url tree.content names.content document).isLasting = true
    · refine Or.inr (Or.inr ⟨⟨⟨tree.fingerprint, names.fingerprint⟩, _⟩, tree, names, document,
        ⟨hasTree, hasNames, documentEq, rfl, rfl, lasting⟩, rfl, fun other => ?_⟩)
      exact memo.entries_remember_of_lasting url other _ lasting
    · exact Or.inl ⟨memo.remember_of_not_lasting url _ lasting, fun settles => lasting settles.2.1⟩

/-! ### Every output in the memo was computed -/

/-- Every entry of the memo was computed from the artifacts of some call. -/
def Sourced (actions : List RuleAction) (memo : Memo) : Prop :=
  ∀ (url : Url) (entry : MemoEntry), memo.entries[url]? = some entry →
    ∃ supplier tree names document, .ask supplier url ∈ actions ∧
      entry.ComputedFrom supplier url tree names document

namespace Sourced

theorem empty : Sourced [] Memo.empty := by
  intro url entry found
  rw [Memo.empty, Std.ExtTreeMap.getElem?_empty] at found
  cases found

variable {actions : List RuleAction} {memo : Memo} (sourced : Sourced actions memo)
include sourced

/-- Entries that were in the memo before one more action are sourced after it. -/
theorem weaken
    (action : RuleAction)
    {url : Url}
    {entry : MemoEntry}
    (found : memo.entries[url]? = some entry) :
    ∃ supplier tree names document, .ask supplier url ∈ actions ++ [action] ∧
      entry.ComputedFrom supplier url tree names document := by
  obtain ⟨supplier, tree, names, document, member, computed⟩ := sourced url entry found
  exact ⟨supplier, tree, names, document, List.mem_append_left _ member, computed⟩

theorem step (action : RuleAction) : Sourced (actions ++ [action]) (memo.follow action) := by
  intro url entry found
  cases action with
  | invalidate invalidated =>
      rw [follow, entries_invalidate] at found
      split at found
      · cases found
      · exact sourced.weaken _ found
  | ask supplier asked =>
      rw [follow] at found
      rcases memo.ask_cases supplier asked with
        ⟨same, -⟩ | ⟨same, -⟩ | ⟨added, tree, names, document, computed, -, entriesEq⟩
      · rw [same] at found
        exact sourced.weaken _ found
      · rw [same] at found
        exact sourced.weaken _ found
      · rw [entriesEq] at found
        by_cases isAsked : asked = url
        · rw [if_pos isAsked] at found
          obtain rfl : added = entry := Option.some.inj found
          subst isAsked
          exact ⟨supplier, tree, names, document,
            List.mem_append_right _ (List.mem_singleton_self _), computed⟩
        · rw [if_neg isAsked] at found
          exact sourced.weaken _ found

/-- In a sourced memo, a call settles nothing, or its fingerprints and its output are what the memo
holds for the document afterwards. -/
theorem ask_settles_cases (supplier : Supplier) (url : Url) :
    let step := memo.tokens supplier url
    (step.memo = memo ∧ ¬ Call.Settles ⟨supplier, url, step.output⟩) ∨
      (Call.Settles ⟨supplier, url, step.output⟩ ∧
        ∃ fingerprints, supplier.fingerprints? url = some fingerprints ∧
          ∀ other, step.memo.entries[other]? =
            if url = other then some ⟨fingerprints, step.output⟩ else memo.entries[other]?) := by
  intro step
  rcases memo.ask_cases supplier url with
    unsettled | ⟨same, fingerprints, seen, held⟩ |
      ⟨entry, tree, names, document, computed, outputEq, entriesEq⟩
  · exact Or.inl unsettled
  · obtain ⟨_, _, _, _, -, computed⟩ := sourced url _ held
    refine Or.inr ⟨⟨by rw [seen]; rfl, computed.lasting, computed.output_ne_interrupted⟩,
      fingerprints, seen, fun other => ?_⟩
    by_cases isUrl : url = other
    · rw [if_pos isUrl, ← isUrl, same, held]
    · rw [if_neg isUrl, same]
  · have seen := fingerprints?_eq_some computed.hasTree computed.hasNames
    have entryEq : entry = ⟨⟨tree.fingerprint, names.fingerprint⟩, step.output⟩ := by
      rw [outputEq, ← computed.fingerprints]
    have lasting := computed.lasting
    have finished := computed.output_ne_interrupted
    rw [← outputEq] at lasting finished
    refine Or.inr ⟨⟨by rw [seen]; rfl, lasting, finished⟩, _, seen, ?_⟩
    rw [← entryEq]
    exact entriesEq

end Sourced

end Memo

/-! ### The memo holds what was settled last -/

/-- A record that does not settle or invalidate the document of a call does not change whether the
call is the last one. -/
theorem Call.lastIn_append_of_quiet
    (call : Call)
    (history : List RuleRecord)
    {record : RuleRecord}
    (unsettled : ¬ record.SettlesAt call.url)
    (notInvalidated : ¬ record.InvalidatesAt call.url) :
    call.LastIn (history ++ [record]) ↔ call.LastIn history := by
  rw [Call.LastIn, IsLatest.append_singleton_iff]
  constructor
  · rintro (⟨rfl, settles⟩ | ⟨last, -⟩)
    · exact absurd settles unsettled
    · exact last
  · intro last
    exact Or.inr ⟨last, unsettled, notInvalidated⟩

/-- After a call that settles something, it is the last call of its document, and the last calls of
other documents stay. -/
theorem Call.lastIn_append_called_iff
    (call : Call)
    (history : List RuleRecord)
    {settled : Call}
    (settles : settled.Settles) :
    call.LastIn (history ++ [.called settled]) ↔
      call = settled ∨ (settled.url ≠ call.url ∧ call.LastIn history) := by
  rw [Call.LastIn, IsLatest.append_singleton_iff]
  simp only [RuleRecord.SettlesAt, RuleRecord.InvalidatesAt, RuleRecord.called.injEq, true_and,
    not_false_eq_true, and_true]
  constructor
  · rintro (⟨rfl, -⟩ | ⟨last, elsewhere⟩)
    · exact Or.inl rfl
    · exact Or.inr ⟨fun same => elsewhere ⟨same, settles⟩, last⟩
  · rintro (rfl | ⟨elsewhere, last⟩)
    · exact Or.inl ⟨rfl, settles⟩
    · exact Or.inr ⟨last, fun same => elsewhere same.1⟩

namespace Memo

/-- The memo holds for each document the fingerprints and the output of its last call that settled
something, and nothing else. -/
def Recalls (history : List RuleRecord) (memo : Memo) : Prop :=
  ∀ (url : Url) (entry : MemoEntry), memo.entries[url]? = some entry ↔
    ∃ call : Call, call.LastIn history ∧ call.url = url ∧
      call.supplier.fingerprints? url = some entry.fingerprints ∧ call.output = entry.output

namespace Recalls

theorem empty : Recalls [] Memo.empty := by
  intro url entry
  rw [Memo.empty, Std.ExtTreeMap.getElem?_empty]
  constructor
  · intro found
    cases found
  · rintro ⟨call, last, -⟩
    exact absurd last (IsLatest.not_nil _)

variable {history : List RuleRecord} {memo : Memo} (recalls : Recalls history memo)
include recalls

theorem invalidate (url : Url) :
    Recalls (history ++ [.invalidated url]) (memo.invalidate url) := by
  intro other entry
  rw [entries_invalidate]
  by_cases same : url = other
  · rw [if_pos same]
    refine ⟨nofun, ?_⟩
    rintro ⟨call, last, isOther, -⟩
    rw [Call.LastIn, IsLatest.append_singleton_iff] at last
    rcases last with ⟨isCall, -⟩ | ⟨-, -, kept⟩
    · cases isCall
    · exact absurd (same.trans isOther.symm) kept
  · rw [if_neg same, recalls other entry]
    refine exists_congr fun call => and_congr_left fun ⟨isOther, _⟩ => ?_
    refine (call.lastIn_append_of_quiet history id fun invalidated => ?_).symm
    exact same (invalidated.trans isOther)

theorem unsettled
    {call : Call}
    (settlesNothing : ¬ call.Settles) :
    Recalls (history ++ [.called call]) memo := by
  intro url entry
  rw [recalls url entry]
  refine exists_congr fun last => and_congr_left fun _ => ?_
  have quiet : ¬ (RuleRecord.called call).SettlesAt last.url := fun settles =>
    settlesNothing settles.2
  exact (last.lastIn_append_of_quiet history quiet id).symm

theorem settled
    {call : Call}
    (settles : call.Settles)
    {fingerprints : Fingerprints}
    (seen : call.supplier.fingerprints? call.url = some fingerprints)
    {next : Memo}
    (entriesEq : ∀ other, next.entries[other]? =
      if call.url = other then some ⟨fingerprints, call.output⟩ else memo.entries[other]?) :
    Recalls (history ++ [.called call]) next := by
  intro url entry
  rw [entriesEq]
  simp only [Call.lastIn_append_called_iff _ history settles]
  by_cases same : call.url = url
  · rw [if_pos same]
    constructor
    · intro held
      obtain rfl := Option.some.inj held
      exact ⟨call, Or.inl rfl, same, by rw [← same, seen], rfl⟩
    · rintro ⟨last, isCall | ⟨elsewhere, -⟩, isUrl, hasFingerprints, hasOutput⟩
      · subst isCall
        rw [same, hasFingerprints] at seen
        rw [← Option.some.inj seen, hasOutput]
      · exact absurd (same.trans isUrl.symm) elsewhere
  · rw [if_neg same, recalls url entry]
    refine exists_congr fun last => and_congr_left fun ⟨isUrl, _⟩ => ?_
    constructor
    · intro isLast
      exact Or.inr ⟨fun sameUrl => same (sameUrl.trans isUrl), isLast⟩
    · rintro (rfl | ⟨-, isLast⟩)
      · exact absurd isUrl same
      · exact isLast

theorem step
    {actions : List RuleAction}
    (sourced : Sourced actions memo)
    (action : RuleAction) :
    Recalls (history ++ [memo.record action]) (memo.follow action) := by
  cases action with
  | invalidate url => exact recalls.invalidate url
  | ask supplier url =>
      rcases sourced.ask_settles_cases supplier url with
        ⟨same, settlesNothing⟩ | ⟨settles, fingerprints, seen, entriesEq⟩
      · rw [follow, same]
        exact recalls.unsettled settlesNothing
      · exact recalls.settled settles seen entriesEq

end Recalls

/-- Along every run from an empty memo, its entries are sourced and hold what was settled last. -/
theorem sourced_and_recalls_after (actions : List RuleAction) :
    Sourced actions (Memo.empty.after actions) ∧
      Recalls (Memo.empty.history actions) (Memo.empty.after actions) := by
  apply run_induction
    (fun actions history memo => Sourced actions memo ∧ Recalls history memo)
  · exact ⟨Sourced.empty, Recalls.empty⟩
  · rintro actions history current action ⟨sourced, recalls⟩
    exact ⟨sourced.step action, recalls.step sourced action⟩

end Memo

/-! ### Runs in which fingerprints tell artifacts apart -/

/-- The later supplier has the same tree and names for a document as the earlier one, and the same
text if the earlier one had a text. -/
structure Supplier.Continues (later earlier : Supplier) (url : Url) : Prop where
  tree : later.tree url = earlier.tree url
  names : later.names url = earlier.names url
  document : ∀ document, earlier.document url = .present document →
    later.document url = .present document

/-- Whenever two calls for a document see the same fingerprints, they see the same artifacts; a text
may be missing at first, but stays once it is there. -/
def Coherent (actions : List RuleAction) : Prop :=
  actions.Pairwise fun earlier later => ∀ before now url fingerprints,
    earlier = .ask before url → later = .ask now url →
      before.fingerprints? url = some fingerprints → now.fingerprints? url = some fingerprints →
        now.Continues before url

/-- An output that does not come from a missing text stays the same when a text that was missing
appears. -/
theorem computeTokens_eq_of_lasting
    {url : Url}
    {tree : AnnotatedTree}
    {names : NameMap}
    (lasting : (computeTokens url tree names none).isLasting = true)
    (document : Option Document) :
    computeTokens url tree names document = computeTokens url tree names none := by
  rw [computeTokens, computeTokens] at *
  cases found : tree.file? url.fileKey with
  | none => rfl
  | some root =>
      rw [found] at lasting
      cases lasting

/-- In a coherent run, what the memo has under the fingerprints of a call is what the artifacts of
that call give. -/
theorem Coherent.find?_eq_computeTokens
    {before : List RuleAction}
    {supplier : Supplier}
    {url : Url}
    (coherent : Coherent (before ++ [.ask supplier url]))
    {tree : Snapshot AnnotatedTree}
    {names : Snapshot NameMap}
    (hasTree : supplier.tree url = .present tree)
    (hasNames : supplier.names url = .present names)
    {document : Option Document}
    (documentEq : supplier.document url = .ofOption document)
    {memo : Memo}
    (sourced : memo.Sourced before)
    {output : RuleOutput}
    (found : memo.find? url ⟨tree.fingerprint, names.fingerprint⟩ = some output) :
    output = computeTokens url tree.content names.content document := by
  obtain ⟨source, oldTree, oldNames, oldDocument, member, computed⟩ :=
    sourced url _ ((Memo.find?_eq_some_iff _ _).mp found)
  have seenBefore : source.fingerprints? url = some ⟨tree.fingerprint, names.fingerprint⟩ := by
    rw [Memo.fingerprints?_eq_some computed.hasTree computed.hasNames, ← computed.fingerprints]
  have continues := (List.pairwise_append.mp coherent).2.2 _ member _ (List.mem_singleton_self _)
    source supplier url _ rfl rfl seenBefore (Memo.fingerprints?_eq_some hasTree hasNames)
  obtain rfl : tree = oldTree :=
    Supply.present.inj (hasTree.symm.trans (continues.tree.trans computed.hasTree))
  obtain rfl : names = oldNames :=
    Supply.present.inj (hasNames.symm.trans (continues.names.trans computed.hasNames))
  have outputEq : output = computeTokens url tree.content names.content oldDocument :=
    computed.output
  rw [outputEq]
  cases oldDocument with
  | none =>
      have lasting : output.isLasting = true := computed.lasting
      rw [outputEq] at lasting
      exact (computeTokens_eq_of_lasting lasting document).symm
  | some text =>
      have stays := continues.document text computed.documentEq
      rw [documentEq] at stays
      cases document with
      | none => cases stays
      | some now => rw [Supply.present.inj stays]

/-- What a call gives. Without a tree, or without names, it fails for that reason and leaves the
memo as it is. Otherwise, if the last call of the document that settled something since the document
was last invalidated saw the same fingerprints, the output of that call is given again, whatever the
supplier has by now; and if there is no such call or it saw others, the output is computed from what
the supplier has. So in a run in which equal fingerprints come with equal artifacts, every call
gives what its artifacts give. -/
theorem output_replayed_or_computed
    (actions before later : List RuleAction)
    (supplier : Supplier)
    (url : Url)
    (split : actions = before ++ .ask supplier url :: later) :
    let memo := Memo.empty.after before
    let history := Memo.empty.history before
    let step := memo.tokens supplier url
    (supplier.tree url = .absent →
        step.output = .error (.noTree url.href) ∧ step.memo = memo) ∧
      (∀ tree, supplier.tree url = .present tree → supplier.names url = .absent →
        step.output = .error (.noNames url.href) ∧ step.memo = memo) ∧
      ∀ tree names, supplier.tree url = .present tree → supplier.names url = .present names →
        (∀ call : Call, call.LastIn history → call.url = url →
          call.supplier.fingerprints? url = some ⟨tree.fingerprint, names.fingerprint⟩ →
          step.output = call.output) ∧
        ((∀ call : Call, call.LastIn history → call.url = url →
            call.supplier.fingerprints? url ≠ some ⟨tree.fingerprint, names.fingerprint⟩) →
          ∀ document, supplier.document url = .ofOption document →
            step.output = computeTokens url tree.content names.content document) ∧
        (Coherent actions →
          ∀ document, supplier.document url = .ofOption document →
            step.output = computeTokens url tree.content names.content document) := by
  intro memo history step
  obtain ⟨sourced, recalls⟩ := Memo.sourced_and_recalls_after before
  refine ⟨fun noTree => ?_, fun tree hasTree noNames => ?_, fun tree names hasTree hasNames => ?_⟩
  · simp only [step, Memo.tokens_of_no_tree noTree]
    exact ⟨rfl, rfl⟩
  · simp only [step, Memo.tokens_of_no_names hasTree noNames]
    exact ⟨rfl, rfl⟩
  · refine ⟨fun call last isUrl seen => ?_, fun otherwise document documentEq => ?_,
      fun coherent document documentEq => ?_⟩
    · have held := (recalls url ⟨_, call.output⟩).mpr ⟨call, last, isUrl, seen, rfl⟩
      exact congrArg RuleStep.output
        (Memo.tokens_of_found hasTree hasNames ((Memo.find?_eq_some_iff _ _).mpr held))
    · have notFound : memo.find? url ⟨tree.fingerprint, names.fingerprint⟩ = none := by
        refine Option.eq_none_iff_forall_ne_some.mpr fun output found => ?_
        obtain ⟨call, last, isUrl, seen, -⟩ :=
          (recalls url _).mp ((Memo.find?_eq_some_iff _ _).mp found)
        exact otherwise call last isUrl seen
      simp only [step, Memo.tokens_of_not_found hasTree hasNames notFound documentEq]
      rfl
    · have sofar : Coherent (before ++ [.ask supplier url]) := by
        rw [split, List.append_cons] at coherent
        exact (List.pairwise_append.mp coherent).1
      cases found : memo.find? url ⟨tree.fingerprint, names.fingerprint⟩ with
      | some output =>
          simp only [step, Memo.tokens_of_found hasTree hasNames found]
          exact sofar.find?_eq_computeTokens hasTree hasNames documentEq sourced found
      | none =>
          simp only [step, Memo.tokens_of_not_found hasTree hasNames found documentEq]
          rfl

def Supplier.withoutText (supplier : Supplier) : Supplier :=
  { supplier with document := fun _ => .absent }

def firstCall : Call where
  supplier := pairBuild [letterAt 0 "f"] 0
  url := ⟨"a:b"⟩
  output := .ok ⟨[Encoding.variableAt ⟨0, 0, 1⟩], none⟩

/-- The call of a build with other fingerprints, which has found both names. -/
def secondCall : Call where
  supplier := pairBuild [letterAt 0 "f", letterAt 2 "g"] 1
  url := ⟨"a:b"⟩
  output := .ok ⟨[Encoding.variableAt ⟨0, 0, 1⟩, Encoding.variableAt ⟨0, 2, 1⟩], none⟩

def lackingCall : Call where
  supplier := secondCall.supplier.withoutText
  url := ⟨"a:b"⟩
  output := .error (.noText "a:b")

/-- A build that has found both names comes under fingerprints for which one name was found. After
a call that lacked its text, the old output is given again; after a call that settled other
fingerprints, the output is computed. A text that appears late does not make a run incoherent. -/
theorem output_replayed_or_computed_aged :
    let aged := pairBuild [letterAt 0 "f", letterAt 2 "g"] 0
    let first := RuleAction.ask firstCall.supplier ⟨"a:b"⟩
    let second := RuleAction.ask secondCall.supplier ⟨"a:b"⟩
    let lacking := RuleAction.ask lackingCall.supplier ⟨"a:b"⟩
    let late := RuleAction.ask firstCall.supplier.withoutText ⟨"a:b"⟩
    firstCall.LastIn (Memo.empty.history [first, lacking]) ∧
      ((Memo.empty.after [first, lacking]).tokens aged ⟨"a:b"⟩).output = firstCall.output ∧
      ((Memo.empty.after [first, second]).tokens aged ⟨"a:b"⟩).output =
        computeTokens ⟨"a:b"⟩
          (AnnotatedTree.empty.addFile "b"
            ⟨⟨⟨0, 0⟩, ⟨0, 3⟩⟩, ∅, [letterAt 0 "f", letterAt 2 "g"]⟩)
          NameMap.empty (some ⟨"f g", none⟩) ∧
      Coherent [late, first] ∧
      ((Memo.empty.after [late]).tokens firstCall.supplier ⟨"a:b"⟩).output =
        computeTokens ⟨"a:b"⟩
          (AnnotatedTree.empty.addFile "b" ⟨⟨⟨0, 0⟩, ⟨0, 3⟩⟩, ∅, [letterAt 0 "f"]⟩)
          NameMap.empty (some ⟨"f g", none⟩) := by
  intro aged first second lacking late
  have firstSettles : firstCall.Settles := ⟨rfl, rfl, by simp [firstCall]⟩
  have secondSettles : secondCall.Settles := ⟨rfl, rfl, by simp [secondCall]⟩
  have lackingUnsettled : ¬ lackingCall.Settles := fun settles => by cases settles.2.1
  have firstRecord : Memo.empty.record first = .called firstCall :=
    Memo.record_ask (by decide +kernel)
  have secondRecord : (Memo.empty.follow first).record second = .called secondCall :=
    Memo.record_ask (by decide +kernel)
  have lackingRecord : (Memo.empty.follow first).record lacking = .called lackingCall :=
    Memo.record_ask (by decide +kernel)
  have last : firstCall.LastIn (Memo.empty.history [first, lacking]) := by
    rw [Memo.history, Memo.history, Memo.history, firstRecord, lackingRecord]
    refine (firstCall.lastIn_append_of_quiet [.called firstCall] ?_ id).mpr ?_
    · exact fun settles => lackingUnsettled settles.2
    · exact (firstCall.lastIn_append_called_iff [] firstSettles).mpr (Or.inl rfl)
  have history :
      Memo.empty.history [first, second] = [.called firstCall] ++ [.called secondCall] := by
    rw [Memo.history, Memo.history, Memo.history, firstRecord, secondRecord]
    rfl
  have coherent : Coherent [late, first] := by
    refine List.pairwise_pair.mpr ?_
    rintro before now url fingerprints isLate isFirst - -
    obtain ⟨rfl, rfl⟩ := RuleAction.ask.inj isLate
    obtain ⟨rfl, -⟩ := RuleAction.ask.inj isFirst
    exact ⟨rfl, rfl, fun _ present => by cases present⟩
  obtain ⟨-, -, replays⟩ := output_replayed_or_computed [first, lacking, .ask aged ⟨"a:b"⟩]
    [first, lacking] [] aged ⟨"a:b"⟩ rfl
  obtain ⟨-, -, computes⟩ := output_replayed_or_computed [first, second, .ask aged ⟨"a:b"⟩]
    [first, second] [] aged ⟨"a:b"⟩ rfl
  obtain ⟨-, -, agrees⟩ := output_replayed_or_computed [late, first] [late] []
    firstCall.supplier ⟨"a:b"⟩ rfl
  refine ⟨last, (replays _ _ rfl rfl).1 firstCall last rfl rfl, ?_, coherent,
    (agrees _ _ rfl rfl).2.2 coherent (some _) rfl⟩
  refine (computes _ _ rfl rfl).2.1 ?_ (some _) rfl
  intro call isLast isUrl seen
  rw [history, call.lastIn_append_called_iff _ secondSettles] at isLast
  rcases isLast with rfl | ⟨elsewhere, -⟩
  · cases seen
  · exact elsewhere isUrl.symm

end Highlight
