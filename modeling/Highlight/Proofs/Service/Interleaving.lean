import Highlight.Proofs.Service.Client
import Mathlib.Data.List.Induction
import Mathlib.Data.List.Nodup

/-!
Contract: encoding and writing may be interleaved in any order.

Owns: a session in which tokens are encoded in one step and the array is handed
to the cache in a later one, and the account of where each array is: not yet
handed over, in the cache under one document, or displaced once. Requests that
are served at the same time take these steps in some order, and every order is
covered. Ids may reach the cache in another order than that in which they were
issued, so that a write can displace an array that was encoded after its own.

Does not own: the write itself, which is one step.
-/

set_option autoImplicit false

namespace Highlight

/-! ### Steps in any order -/

/-- What is done with a session: tokens are encoded under a fresh id, the array of an encoding,
counted from zero, is handed to the cache, or a document is removed from the cache. -/
inductive Operation where
  | encode (encoding : Encoding) (tokens : List RangedToken)
  | store (number : Nat) (url : Url) (version : Option Int)
  | remove (url : Url)

/-- The encoding whose array an operation hands to the cache. -/
def Operation.stores? : Operation → Option Nat
  | .store number _ _ => some number
  | _ => none

inductive Deed where
  | encoded (tokens : TokenArray)
  | stored (tokens : TokenArray) (outcome : StoreOutcome)
  deriving DecidableEq, Repr

namespace Deed

def encoded? : Deed → Option TokenArray
  | .encoded tokens => some tokens
  | .stored _ _ => none

def handed? : Deed → Option TokenArray
  | .encoded _ => none
  | .stored tokens _ => some tokens

def displaced? : Deed → Option TokenArray
  | .stored _ (.stored previous) => previous
  | _ => none

end Deed

structure Workbench where
  session : Session
  log : List Deed

namespace Workbench

def fresh : Workbench where
  session := Session.fresh
  log := []

def encoded (bench : Workbench) : List TokenArray :=
  bench.log.filterMap Deed.encoded?

def handed (bench : Workbench) : List TokenArray :=
  bench.log.filterMap Deed.handed?

def displaced (bench : Workbench) : List TokenArray :=
  bench.log.filterMap Deed.displaced?

def note (bench : Workbench) (session : Session) (deed : Deed) : Workbench where
  session := session
  log := bench.log ++ [deed]

/-- Carries out an operation. An encoding that fails takes no id, and an array that was not yet
encoded cannot be handed over. -/
def perform (bench : Workbench) : Operation → Workbench
  | .encode encoding tokens =>
      match encoding.stamp bench.session.ids tokens with
      | (.ok array, ids) => bench.note { bench.session with ids := ids } (.encoded array)
      | (.error _, ids) => ⟨{ bench.session with ids := ids }, bench.log⟩
  | .store number url version =>
      match bench.encoded[number]? with
      | some array =>
          let (outcome, cache) := bench.session.cache.store url array version
          bench.note { bench.session with cache := cache } (.stored array outcome)
      | none => bench
  | .remove url =>
      ⟨{ bench.session with cache := bench.session.cache.remove url }, bench.log⟩

def after (bench : Workbench) (operations : List Operation) : Workbench :=
  operations.foldl perform bench

theorem after_append_singleton
    (bench : Workbench)
    (operations : List Operation)
    (operation : Operation) :
    bench.after (operations ++ [operation]) = (bench.after operations).perform operation := by
  rw [after, List.foldl_append]
  rfl

theorem mem_encoded_iff (bench : Workbench) (tokens : TokenArray) :
    tokens ∈ bench.encoded ↔ .encoded tokens ∈ bench.log := by
  rw [encoded, List.mem_filterMap]
  constructor
  · rintro ⟨deed, inLog, isDeed⟩
    cases deed with
    | stored _ _ => cases isDeed
    | encoded array =>
        rw [← Option.some.inj isDeed]
        exact inLog
  · intro inLog
    exact ⟨_, inLog, rfl⟩

/-! ### One operation -/

section Views

variable (bench : Workbench) (session : Session) (deed : Deed)

@[simp] theorem session_note : (bench.note session deed).session = session := rfl

@[simp] theorem encoded_note :
    (bench.note session deed).encoded = bench.encoded ++ deed.encoded?.toList := by
  rw [encoded, note, List.filterMap_append, List.filterMap_cons]
  cases deed.encoded? <;> rfl

@[simp] theorem handed_note :
    (bench.note session deed).handed = bench.handed ++ deed.handed?.toList := by
  rw [handed, note, List.filterMap_append, List.filterMap_cons]
  cases deed.handed? <;> rfl

@[simp] theorem displaced_note :
    (bench.note session deed).displaced = bench.displaced ++ deed.displaced?.toList := by
  rw [displaced, note, List.filterMap_append, List.filterMap_cons]
  cases deed.displaced? <;> rfl

end Views

/-- An encoding that fails changes nothing; one that succeeds takes the next id. -/
theorem perform_encode_cases
    (bench : Workbench)
    (encoding : Encoding)
    (tokens : List RangedToken) :
    bench.perform (.encode encoding tokens) = bench ∨
      ∃ data, bench.perform (.encode encoding tokens) =
        bench.note (bench.session.advanced bench.session.cache bench.session.memo)
          (.encoded (bench.session.stamped data)) := by
  cases encoded : encoding.encode tokens with
  | error fault =>
      refine Or.inl ?_
      simp only [perform, Encoding.stamp, encoded]
  | ok data =>
      refine Or.inr ⟨data, ?_⟩
      simp only [perform, Encoding.stamp, encoded]
      rfl

theorem perform_store_of_encoded
    {bench : Workbench}
    {number : Nat}
    {array : TokenArray}
    (isEncoded : bench.encoded[number]? = some array)
    (url : Url)
    (version : Option Int) :
    let stored := bench.session.cache.store url array version
    bench.perform (.store number url version) =
      bench.note { bench.session with cache := stored.2 } (.stored array stored.1) := by
  simp only [perform, isEncoded]

theorem perform_store_of_not_encoded
    {bench : Workbench}
    {number : Nat}
    (notEncoded : bench.encoded[number]? = none)
    (url : Url)
    (version : Option Int) :
    bench.perform (.store number url version) = bench := by
  simp only [perform, notEncoded]

/-- Only an encoding that succeeds adds to what was encoded. -/
theorem length_encoded_le_perform (bench : Workbench) (operation : Operation) :
    bench.encoded.length ≤ (bench.perform operation).encoded.length := by
  have grows (session : Session) (deed : Deed) :
      bench.encoded.length ≤ (bench.note session deed).encoded.length := by
    simp
  cases operation with
  | encode encoding tokens =>
      rcases bench.perform_encode_cases encoding tokens with same | ⟨data, performed⟩
      · exact Nat.le_of_eq (congrArg (·.encoded.length) same.symm)
      · rw [performed]
        exact grows _ _
  | store number url version =>
      cases isEncoded : bench.encoded[number]? with
      | none =>
          have same := perform_store_of_not_encoded isEncoded
          exact Nat.le_of_eq (congrArg (·.encoded.length) (same url version).symm)
      | some array =>
          rw [perform_store_of_encoded isEncoded]
          exact grows _ _
  | remove url => exact Nat.le_refl _

/-! ### Ids -/

/-- The counter stands at the number of arrays encoded, and their ids are the numerals below it. -/
structure Issued (bench : Workbench) : Prop where
  counter : bench.session.ids.next.toNat = bench.encoded.length
  numerals :
    bench.encoded.map TokenArray.resultId =
      (List.range bench.encoded.length).map fun number => some (Nat.repr number)

namespace Issued

theorem fresh : Workbench.fresh.Issued :=
  ⟨rfl, rfl⟩

variable {bench : Workbench} (issued : bench.Issued)
include issued

theorem nodup : (bench.encoded.map TokenArray.resultId).Nodup := by
  rw [issued.numerals]
  exact List.nodup_range.map fun _ _ same => Nat.repr_injective (Option.some.inj same)

theorem exists_id {tokens : TokenArray} (member : tokens ∈ bench.encoded) :
    ∃ id, tokens.resultId = some id := by
  have isListed : tokens.resultId ∈ bench.encoded.map TokenArray.resultId :=
    List.mem_map_of_mem member
  rw [issued.numerals, List.mem_map] at isListed
  obtain ⟨number, -, same⟩ := isListed
  exact ⟨_, same.symm⟩

/-- An array that was encoded is known by its id. -/
theorem eq_of_resultId
    {first second : TokenArray}
    (isFirst : first ∈ bench.encoded)
    (isSecond : second ∈ bench.encoded)
    (same : first.resultId = second.resultId) :
    first = second :=
  List.inj_on_of_nodup_map issued.nodup isFirst isSecond same

/-- The same array does not come from two encodings. -/
theorem number_eq
    {first second : Nat}
    {tokens : TokenArray}
    (isFirst : bench.encoded[first]? = some tokens)
    (isSecond : bench.encoded[second]? = some tokens) :
    first = second := by
  have distinct : bench.encoded.Nodup := List.Nodup.of_map _ issued.nodup
  obtain ⟨inside, firstEq⟩ := List.getElem?_eq_some_iff.mp isFirst
  obtain ⟨_, secondEq⟩ := List.getElem?_eq_some_iff.mp isSecond
  exact (distinct.getElem_inj_iff).mp (firstEq.trans secondEq.symm)

theorem encode
    (data : List WireToken)
    (session : Session)
    (takesId : session.ids = ⟨bench.session.ids.next + 1⟩)
    (fits : bench.encoded.length + 1 < 2 ^ 64) :
    (bench.note session (.encoded (bench.session.stamped data))).Issued := by
  have extended :
      (bench.note session (.encoded (bench.session.stamped data))).encoded =
        bench.encoded ++ [bench.session.stamped data] := by
    simp [Deed.encoded?]
  have nextId : (bench.session.stamped data).resultId = some (Nat.repr bench.encoded.length) := by
    rw [Session.stamped, IdSource.text, issued.counter]
  refine ⟨?_, ?_⟩
  · rw [extended, note, takesId, List.length_append, List.length_singleton, UInt64.toNat_add,
      issued.counter]
    exact Nat.mod_eq_of_lt fits
  · rw [extended, List.map_append, issued.numerals, List.length_append, List.length_singleton,
      List.range_succ, List.map_append, List.map_singleton, List.map_singleton, nextId]

end Issued

end Workbench

/-! ### Where each array is -/

/-- The arrays handed over are in the cache, under one document each, or displaced, once each, or in
neither place. -/
structure Accounted (cache : Cache) (handed displaced : List TokenArray) : Prop where
  cached : ∀ (url : Url) (tokens : TokenArray), cache.get? url = some tokens → tokens ∈ handed
  apart : ∀ (url other : Url) (tokens : TokenArray), cache.get? url = some tokens →
    cache.get? other = some tokens → url = other
  known : ∀ tokens ∈ displaced, tokens ∈ handed
  gone : ∀ (url : Url) (tokens : TokenArray), cache.get? url = some tokens → tokens ∉ displaced
  once : displaced.Nodup

namespace Accounted

theorem empty : Accounted Cache.empty [] [] := by
  have nothingCached (url : Url) (tokens : TokenArray) : Cache.empty.get? url ≠ some tokens := by
    intro found
    cases (Cache.get?_empty url).symm.trans found
  refine ⟨?_, ?_, ?_, ?_, List.nodup_nil⟩
  · exact fun url tokens found => absurd found (nothingCached url tokens)
  · exact fun url _ tokens found => absurd found (nothingCached url tokens)
  · exact fun tokens member => absurd member List.not_mem_nil
  · exact fun url tokens found => absurd found (nothingCached url tokens)

variable {cache : Cache} {handed displaced : List TokenArray}
  (accounted : Accounted cache handed displaced)
include accounted

theorem remove (url : Url) : Accounted (cache.remove url) handed displaced := by
  have wasFound : ∀ (other : Url) (tokens : TokenArray),
      (cache.remove url).get? other = some tokens → cache.get? other = some tokens := by
    intro other tokens found
    rw [Cache.get?_remove] at found
    split at found
    · cases found
    · exact found
  refine ⟨?_, ?_, accounted.known, ?_, accounted.once⟩
  · exact fun other tokens found => accounted.cached other tokens (wasFound other tokens found)
  · exact fun first second tokens isFirst isSecond =>
      accounted.apart first second tokens (wasFound first tokens isFirst)
        (wasFound second tokens isSecond)
  · exact fun other tokens found => accounted.gone other tokens (wasFound other tokens found)

/-- A write that is superseded leaves its array in neither place. -/
theorem supersede (array : TokenArray) : Accounted cache (handed ++ [array]) displaced := by
  refine ⟨?_, accounted.apart, ?_, accounted.gone, accounted.once⟩
  · exact fun url tokens found => List.mem_append_left _ (accounted.cached url tokens found)
  · exact fun tokens member => List.mem_append_left _ (accounted.known tokens member)

/-- A write of an array that was not handed over before puts it into the cache and moves what the
document had there to what was displaced. -/
theorem put
    (url : Url)
    {array : TokenArray}
    (isNew : array ∉ handed)
    (version : Option Int) :
    Accounted (cache.put url ⟨array, version⟩) (handed ++ [array])
      (displaced ++ (cache.get? url).toList) := by
  have found_cases : ∀ (other : Url) (tokens : TokenArray),
      (cache.put url ⟨array, version⟩).get? other = some tokens →
        (url = other ∧ array = tokens) ∨ (url ≠ other ∧ cache.get? other = some tokens) := by
    intro other tokens found
    rw [Cache.get?_put] at found
    by_cases same : url = other
    · rw [if_pos same] at found
      exact Or.inl ⟨same, Option.some.inj found⟩
    · rw [if_neg same] at found
      exact Or.inr ⟨same, found⟩
  refine ⟨?_, ?_, ?_, ?_, ?_⟩
  · intro other tokens found
    rcases found_cases other tokens found with ⟨-, rfl⟩ | ⟨-, wasFound⟩
    · exact List.mem_append_right _ (List.mem_singleton_self _)
    · exact List.mem_append_left _ (accounted.cached other tokens wasFound)
  · intro first second tokens isFirst isSecond
    rcases found_cases first tokens isFirst with ⟨rfl, rfl⟩ | ⟨-, firstFound⟩
    · rcases found_cases second array isSecond with ⟨same, -⟩ | ⟨-, secondFound⟩
      · exact same
      · exact absurd (accounted.cached second array secondFound) isNew
    · rcases found_cases second tokens isSecond with ⟨rfl, rfl⟩ | ⟨-, secondFound⟩
      · exact absurd (accounted.cached first array firstFound) isNew
      · exact accounted.apart first second tokens firstFound secondFound
  · intro tokens member
    rcases List.mem_append.mp member with before | now
    · exact List.mem_append_left _ (accounted.known tokens before)
    · exact List.mem_append_left _ (accounted.cached url tokens (Option.mem_toList.mp now))
  · intro other tokens found member
    rcases found_cases other tokens found with ⟨-, rfl⟩ | ⟨different, wasFound⟩
    · rcases List.mem_append.mp member with before | now
      · exact isNew (accounted.known array before)
      · exact isNew (accounted.cached url array (Option.mem_toList.mp now))
    · rcases List.mem_append.mp member with before | now
      · exact accounted.gone other tokens wasFound before
      · exact different (accounted.apart url other tokens (Option.mem_toList.mp now) wasFound)
  · refine List.nodup_append.mpr ⟨accounted.once, ?_, ?_⟩
    · cases cache.get? url <;> simp
    · rintro tokens before _ now rfl
      exact accounted.gone url tokens (Option.mem_toList.mp now) before

end Accounted

/-! ### Whole runs -/

/-- What a write in a log hands over, and what it displaces, was encoded before. -/
def Traced (log : List Deed) : Prop :=
  ∀ (index : Nat) (tokens : TokenArray) (outcome : StoreOutcome),
    log[index]? = some (.stored tokens outcome) →
      .encoded tokens ∈ log.take index ∧
        ∀ previous, outcome = .stored (some previous) → .encoded previous ∈ log.take index

theorem Traced.append_singleton
    {log : List Deed}
    (traced : Traced log)
    {deed : Deed}
    (fromLog : ∀ tokens outcome, deed = .stored tokens outcome →
      .encoded tokens ∈ log ∧
        ∀ previous, outcome = .stored (some previous) → .encoded previous ∈ log) :
    Traced (log ++ [deed]) := by
  intro index tokens outcome found
  rcases Nat.lt_trichotomy index log.length with inside | rfl | outside
  · rw [List.getElem?_append_left inside] at found
    rw [List.take_append_of_le_length (Nat.le_of_lt inside)]
    exact traced index tokens outcome found
  · rw [List.getElem?_concat_length] at found
    rw [List.take_left]
    exact fromLog tokens outcome (Option.some.inj found)
  · rw [List.getElem?_eq_none (by simp; omega)] at found
    cases found

namespace Workbench

/-- The state of a session after operations that handed over the arrays of the given encodings. -/
structure Sound (bench : Workbench) (numbers : List Nat) : Prop where
  issued : bench.Issued
  accounted : Accounted bench.session.cache bench.handed bench.displaced
  numbered : ∀ tokens ∈ bench.handed, ∃ number ∈ numbers, bench.encoded[number]? = some tokens
  traced : Traced bench.log

namespace Sound

theorem fresh : Workbench.fresh.Sound [] where
  issued := Issued.fresh
  accounted := Accounted.empty
  numbered := fun _ member => absurd member List.not_mem_nil
  traced := by
    intro index tokens outcome found
    simp [Workbench.fresh] at found

variable {bench : Workbench} {numbers : List Nat} (sound : bench.Sound numbers)
include sound

theorem encoded_of_handed {tokens : TokenArray} (member : tokens ∈ bench.handed) :
    .encoded tokens ∈ bench.log := by
  obtain ⟨number, -, isEncoded⟩ := sound.numbered tokens member
  exact (bench.mem_encoded_iff tokens).mp (List.mem_of_getElem? isEncoded)

theorem encode
    (encoding : Encoding)
    (tokens : List RangedToken)
    (fits : (bench.perform (.encode encoding tokens)).encoded.length < 2 ^ 64) :
    (bench.perform (.encode encoding tokens)).Sound numbers := by
  rcases bench.perform_encode_cases encoding tokens with same | ⟨data, performed⟩
  · rw [same]
    exact sound
  · rw [performed] at fits ⊢
    refine ⟨sound.issued.encode data _ rfl (by simpa [Deed.encoded?] using fits), ?_, ?_,
      sound.traced.append_singleton nofun⟩
    · simpa [Deed.handed?, Deed.displaced?, Session.advanced] using sound.accounted
    · intro array isHanded
      have wasHanded : array ∈ bench.handed := by
        simpa [Deed.handed?] using isHanded
      obtain ⟨number, isNumber, isEncoded⟩ := sound.numbered array wasHanded
      obtain ⟨inside, -⟩ := List.getElem?_eq_some_iff.mp isEncoded
      refine ⟨number, isNumber, ?_⟩
      rw [encoded_note, List.getElem?_append_left inside, isEncoded]

theorem remove (url : Url) : (bench.perform (.remove url)).Sound numbers :=
  ⟨⟨sound.issued.counter, sound.issued.numerals⟩, sound.accounted.remove url, sound.numbered,
    sound.traced⟩

/-- Handing over an array whose number was not used before. -/
theorem store
    {number : Nat}
    (unused : number ∉ numbers)
    (url : Url)
    (version : Option Int) :
    (bench.perform (.store number url version)).Sound (numbers ++ [number]) := by
  cases isEncoded : bench.encoded[number]? with
  | none =>
      rw [perform_store_of_not_encoded isEncoded]
      refine ⟨sound.issued, sound.accounted, ?_, sound.traced⟩
      intro tokens isHanded
      obtain ⟨used, isUsed, usedEncoded⟩ := sound.numbered tokens isHanded
      exact ⟨used, List.mem_append_left _ isUsed, usedEncoded⟩
  | some array =>
      -- The array is new to the cache and to what was displaced, since its number is.
      have isNew : array ∉ bench.handed := by
        intro isHanded
        obtain ⟨used, isUsed, usedEncoded⟩ := sound.numbered array isHanded
        rw [sound.issued.number_eq usedEncoded isEncoded] at isUsed
        exact unused isUsed
      rw [perform_store_of_encoded isEncoded]
      refine ⟨⟨?_, ?_⟩, ?_, ?_, sound.traced.append_singleton ?_⟩
      · simpa [Deed.encoded?] using sound.issued.counter
      · simpa [Deed.encoded?] using sound.issued.numerals
      · rcases bench.session.cache.store_cases url array version with
          ⟨held, newer, -, -, storeEq⟩ | ⟨-, storeEq⟩
        · simpa [storeEq, Deed.handed?, Deed.displaced?] using sound.accounted.supersede array
        · simpa [storeEq, Deed.handed?, Deed.displaced?] using
            sound.accounted.put url isNew version
      · simp only [handed_note, encoded_note, Deed.handed?, Deed.encoded?, Option.toList_some,
          Option.toList_none, List.append_nil]
        intro tokens isHanded
        rcases List.mem_append.mp isHanded with before | now
        · obtain ⟨used, isUsed, usedEncoded⟩ := sound.numbered tokens before
          exact ⟨used, List.mem_append_left _ isUsed, usedEncoded⟩
        · rw [List.mem_singleton.mp now]
          exact ⟨number, List.mem_append_right _ (List.mem_singleton_self _), isEncoded⟩
      · intro tokens outcome isStored
        cases isStored
        refine ⟨(mem_encoded_iff bench array).mp (List.mem_of_getElem? isEncoded), ?_⟩
        intro previous displaces
        rcases bench.session.cache.store_cases url array version with
          ⟨held, newer, -, -, storeEq⟩ | ⟨-, storeEq⟩
        · rw [storeEq] at displaces
          cases displaces
        · rw [storeEq] at displaces
          have wasCached := StoreOutcome.stored.inj displaces
          exact sound.encoded_of_handed (sound.accounted.cached url previous wasCached)

end Sound

/-- Operations in any order leave a sound session, as long as no array is handed over twice. -/
theorem sound_after
    (operations : List Operation)
    (once : (operations.filterMap Operation.stores?).Nodup)
    (fits : (Workbench.fresh.after operations).encoded.length < 2 ^ 64) :
    (Workbench.fresh.after operations).Sound (operations.filterMap Operation.stores?) := by
  induction operations using List.reverseRecOn with
  | nil => exact Sound.fresh
  | append_singleton before operation inductionHypothesis =>
      rw [after_append_singleton] at fits ⊢
      rw [List.filterMap_append] at once ⊢
      have sound := inductionHypothesis (List.nodup_append.mp once).1
        (Nat.lt_of_le_of_lt (length_encoded_le_perform _ operation) fits)
      cases operation with
      | encode encoding tokens =>
          rw [show [Operation.encode encoding tokens].filterMap Operation.stores? = [] from rfl,
            List.append_nil]
          exact sound.encode encoding tokens fits
      | store number url version =>
          have unused : number ∉ before.filterMap Operation.stores? := fun isUsed =>
            (List.nodup_append.mp once).2.2 number isUsed number List.mem_cons_self rfl
          exact sound.store unused url version
      | remove url =>
          rw [show [Operation.remove url].filterMap Operation.stores? = [] from rfl,
            List.append_nil]
          exact sound.remove url

end Workbench

theorem TokenArray.deltaOrFull_eq_delta_iff
    (previous current : TokenArray)
    (held : String)
    (edits : TokenDelta) :
    previous.deltaOrFull current held = .delta edits ↔
      previous.resultId = some held ∧ previous.delta current = edits := by
  rw [deltaOrFull]
  by_cases same : previous.resultId = some held <;> simp [same]

/-- Encoding and handing over may be interleaved in any order, with documents removed in between.
As long as no array is handed over twice, the arrays encoded have ids of their own, every array that
a write displaces was encoded before, just as it is, and none is displaced twice. Edits for a client
that holds an id are made only against the array encoded under that id, and make its data into that
of the array written. -/
theorem interleaved_edits_sound
    (operations : List Operation)
    (once : (operations.filterMap Operation.stores?).Nodup)
    (idsFit : (Workbench.fresh.after operations).encoded.length < 2 ^ 64)
    (sizesFit : ∀ tokens ∈ (Workbench.fresh.after operations).encoded,
      WireToken.width * tokens.data.length < 2 ^ 32) :
    let bench := Workbench.fresh.after operations
    (∀ tokens ∈ bench.encoded, ∃ id, tokens.resultId = some id) ∧
      (bench.encoded.map TokenArray.resultId).Nodup ∧
      bench.displaced.Nodup ∧
      ∀ earlier later stored displaced,
        bench.log = earlier ++ .stored stored (.stored (some displaced)) :: later →
        .encoded stored ∈ earlier ∧ .encoded displaced ∈ earlier ∧
          ∀ held edits, displaced.deltaOrFull stored held = .delta edits →
            displaced.resultId = some held ∧
              ∀ tokens ∈ bench.encoded, tokens.resultId = some held →
                tokens = displaced ∧
                  TokenEdit.applyAll edits.edits tokens.data = stored.data := by
  intro bench
  have sound := Workbench.sound_after operations once idsFit
  refine ⟨fun tokens => sound.issued.exists_id, sound.issued.nodup, sound.accounted.once, ?_⟩
  intro earlier later stored displaced split
  have found : bench.log[earlier.length]? = some (.stored stored (.stored (some displaced))) := by
    simp [split]
  have origin := sound.traced _ _ _ found
  rw [show bench.log.take earlier.length = earlier by simp [split]] at origin
  obtain ⟨storedBefore, displacedBefore⟩ := origin
  have isBefore := displacedBefore displaced rfl
  refine ⟨storedBefore, isBefore, fun held edits isDelta => ?_⟩
  obtain ⟨hasId, rfl⟩ := (displaced.deltaOrFull_eq_delta_iff stored held edits).mp isDelta
  refine ⟨hasId, fun tokens isEncoded tokensId => ?_⟩
  have displacedEncoded : displaced ∈ bench.encoded := by
    rw [Workbench.mem_encoded_iff, split]
    exact List.mem_append_left _ isBefore
  obtain rfl := sound.issued.eq_of_resultId isEncoded displacedEncoded
    (tokensId.trans hasId.symm)
  exact ⟨rfl, tokens.applyAll_delta stored (sizesFit tokens isEncoded)⟩

def oneName : TokenArray where
  resultId := some "0"
  data := [⟨0, 0, 1, 17, 0⟩]

def bothNames : TokenArray where
  resultId := some "1"
  data := [⟨0, 0, 1, 17, 0⟩, ⟨0, 2, 1, 17, 0⟩]

/-- Two arrays are encoded and reach the cache in the other order. -/
def crossedOperations : List Operation :=
  [.encode .default [Encoding.variableAt ⟨0, 0, 1⟩],
    .encode .default [Encoding.variableAt ⟨0, 0, 1⟩, Encoding.variableAt ⟨0, 2, 1⟩],
    .store 1 ⟨"a:b"⟩ none,
    .store 0 ⟨"a:b"⟩ none]

/-- The array encoded first displaces the one encoded second, and a client that holds the second is
sent edits that lead back to the first. -/
theorem interleaved_edits_sound_crossed :
    (crossedOperations.filterMap Operation.stores?).Nodup ∧
      (Workbench.fresh.after crossedOperations).encoded = [oneName, bothNames] ∧
      (Workbench.fresh.after crossedOperations).displaced = [bothNames] ∧
      bothNames.deltaOrFull oneName "1" = .delta ⟨some "0", [⟨5, 5, some []⟩]⟩ ∧
      TokenEdit.applyAll [⟨5, 5, some []⟩] bothNames.data = oneName.data := by
  have log : (Workbench.fresh.after crossedOperations).log =
      [.encoded oneName, .encoded bothNames, .stored bothNames (.stored none),
        .stored oneName (.stored (some bothNames))] := by decide +kernel
  have encoded : (Workbench.fresh.after crossedOperations).encoded = [oneName, bothNames] := by
    rw [Workbench.encoded, log]
    rfl
  have once : (crossedOperations.filterMap Operation.stores?).Nodup := by decide
  obtain ⟨-, -, -, sound⟩ := interleaved_edits_sound crossedOperations once
    (by rw [encoded]; decide) (by rw [encoded]; decide)
  have isDelta :
      bothNames.deltaOrFull oneName "1" = .delta ⟨some "0", [⟨5, 5, some []⟩]⟩ := by decide
  obtain ⟨-, -, edits⟩ := sound [_, _, _] [] oneName bothNames log
  obtain ⟨-, applied⟩ := (edits "1" _ isDelta).2 bothNames (by rw [encoded]; simp) rfl
  refine ⟨once, encoded, ?_, isDelta, applied⟩
  rw [Workbench.displaced, log]
  rfl

end Highlight
