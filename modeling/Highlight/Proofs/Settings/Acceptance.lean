import Highlight.Proofs.Settings.Format

/-!
Contract: which payloads hold settings, and why every other payload is refused.

Owns: the values that each setting may have and the type error of every other
value; the form of a payload that holds settings; and the reason for refusing
any other payload, which is its outermost fault and, among wrong settings, the
fault of the one with the least key. Both are stated of what stands under the
known keys, without the reader. The reader agrees with them on every payload, so
that nothing under any other key makes a difference.

Does not own: how a payload is written.
-/

set_option autoImplicit false

namespace Highlight

/-- What is read as the settings: the value under the name of the service, or else the payload
itself. -/
def Json.settingsRoot (payload : Json) : Json :=
  (payload.get? Settings.serviceKey).getD payload

theorem Json.tokenSettings?_eq (payload : Json) :
    payload.tokenSettings? = payload.settingsRoot.get? Settings.tokensKey := rfl

theorem faultOfText_eq_some_iff (value : Json) (error : SettingsError) :
    faultOfText value = some error ↔
      (∀ name, value ≠ .string name) ∧ .wrongType value .text = error := by
  cases value <;> simp [faultOfText]

namespace SettingField

/-- The values that a setting may have: a text, or a list of texts. -/
inductive Admits : SettingField → Json → Prop where
  | text (kind : TokenKind) (name : String) : Admits (.tokenType kind) (.string name)
  | texts (names : List String) : Admits .libraryModules (.array (names.map .string))

/-- The type error of a value that a setting may not have. In a list of modules the first item that
is no text is at fault. -/
inductive TypeError : SettingField → Json → SettingsError → Prop where
  | noText (kind : TokenKind) (found : Json) (isOther : ∀ name, found ≠ .string name) :
      TypeError (.tokenType kind) found (.wrongType found .text)
  | noSequence (found : Json) (isOther : ∀ items, found ≠ .array items) :
      TypeError .libraryModules found (.wrongType found .sequence)
  | item (names : List String) (found : Json) (later : List Json)
      (isOther : ∀ name, found ≠ .string name) :
      TypeError .libraryModules (.array (names.map .string ++ found :: later))
        (.wrongType found .text)

/-! ### The fault of one setting -/

theorem typeError_of_faultOfModules
    {value : Json}
    {error : SettingsError}
    (faulty : faultOfModules value = some error) :
    TypeError .libraryModules value error := by
  cases value with
  | array items =>
      obtain ⟨before, item, later, rfl, itemFaulty, textsBefore⟩ :=
        List.findSome?_eq_some_iff.mp faulty
      obtain ⟨isOther, rfl⟩ := (faultOfText_eq_some_iff item error).mp itemFaulty
      -- what stands before the item is a list without fault of its own
      have faultless : faultOfModules (.array before) = none :=
        List.findSome?_eq_none_iff.mpr textsBefore
      obtain ⟨names, isNames⟩ := (faultOfModules_eq_none_iff _).mp faultless
      rw [Json.array.inj isNames]
      exact TypeError.item names item later isOther
  | _ =>
      obtain rfl := Option.some.inj faulty
      exact TypeError.noSequence _ (by simp)

theorem fault?_eq_none_iff (tokens : Json) (field : SettingField) :
    field.fault? tokens = none ↔
      ∀ value, tokens.get? field.key = some value → field.Admits value := by
  unfold fault?
  cases tokens.get? field.key with
  | none => simp
  | some value =>
      simp only [Option.some.injEq, forall_eq']
      cases field with
      | tokenType kind =>
          simp only [faultOfText_eq_none_iff]
          constructor
          · rintro ⟨name, rfl⟩
            exact Admits.text kind name
          · rintro ⟨⟩
            exact ⟨_, rfl⟩
      | libraryModules =>
          simp only [faultOfModules_eq_none_iff]
          constructor
          · rintro ⟨names, rfl⟩
            exact Admits.texts names
          · rintro ⟨⟩
            exact ⟨_, rfl⟩

theorem exists_typeError_of_fault?
    {tokens : Json}
    {field : SettingField}
    {error : SettingsError}
    (faulty : field.fault? tokens = some error) :
    ∃ value, tokens.get? field.key = some value ∧ field.TypeError value error := by
  unfold fault? at faulty
  cases isValue : tokens.get? field.key with
  | none => simp [isValue] at faulty
  | some value =>
      refine ⟨value, rfl, ?_⟩
      rw [isValue] at faulty
      cases field with
      | tokenType kind =>
          obtain ⟨isOther, rfl⟩ := (faultOfText_eq_some_iff value error).mp faulty
          exact TypeError.noText kind value isOther
      | libraryModules => exact typeError_of_faultOfModules faulty

/-- A type error is found where it stands. -/
theorem fault?_of_typeError
    {tokens value : Json}
    {field : SettingField}
    {error : SettingsError}
    (isValue : tokens.get? field.key = some value)
    (wrong : field.TypeError value error) :
    field.fault? tokens = some error := by
  unfold fault?
  rw [isValue]
  cases wrong with
  | noText kind found isOther => exact (faultOfText_eq_some_iff _ _).mpr ⟨isOther, rfl⟩
  | noSequence found isOther => cases value <;> simp_all [faultOfModules]
  | item names found later isOther =>
      refine List.findSome?_eq_some_iff.mpr ⟨_, found, later, rfl, ?_, ?_⟩
      · exact (faultOfText_eq_some_iff _ _).mpr ⟨isOther, rfl⟩
      · simp [faultOfText]

/-! ### The first fault in the order of keys -/

theorem ascending_sorted :
    ascending.Pairwise (fun before after => before.key < after.key) := by
  decide

/-- Where the list of settings is cut, lesser keys stand before and greater ones behind. -/
theorem key_lt_of_split
    {before after : List SettingField}
    {field : SettingField}
    (split : ascending = before ++ field :: after) :
    (∀ other ∈ before, other.key < field.key) ∧ ∀ other ∈ after, field.key < other.key := by
  have sorted := ascending_sorted
  rw [split, List.pairwise_append, List.pairwise_cons] at sorted
  exact ⟨fun other isBefore => sorted.2.2 other isBefore field List.mem_cons_self, sorted.2.1.1⟩

/-- Of several wrong settings the one with the least key is reported. -/
theorem findSome?_ascending_eq_some_iff (tokens : Json) (error : SettingsError) :
    ascending.findSome? (·.fault? tokens) = some error ↔
      ∃ field : SettingField, field.fault? tokens = some error ∧
        ∀ other : SettingField, other.key < field.key → other.fault? tokens = none := by
  rw [List.findSome?_eq_some_iff]
  constructor
  · rintro ⟨before, field, after, split, faulty, faultlessBefore⟩
    refine ⟨field, faulty, fun other less => ?_⟩
    have listed := other.mem_ascending
    rw [split, List.mem_append, List.mem_cons] at listed
    rcases listed with isBefore | rfl | isAfter
    · exact faultlessBefore other isBefore
    · exact absurd less (String.lt_irrefl _)
    · exact absurd less (String.lt_asymm ((key_lt_of_split split).2 other isAfter))
  · rintro ⟨field, faulty, faultlessBelow⟩
    obtain ⟨before, after, split⟩ := List.append_of_mem field.mem_ascending
    exact ⟨before, field, after, split, faulty, fun other isBefore =>
      faultlessBelow other ((key_lt_of_split split).1 other isBefore)⟩

/-- The settings of an object are all right, or there is a first wrong one. -/
theorem admitted_or_first_wrong (tokens : Json) :
    (∀ (field : SettingField) (value : Json),
      tokens.get? field.key = some value → field.Admits value) ∨
      ∃ (field : SettingField) (value : Json) (error : SettingsError),
        tokens.get? field.key = some value ∧ field.TypeError value error ∧
          ∀ (other : SettingField) (otherValue : Json), other.key < field.key →
            tokens.get? other.key = some otherValue → other.Admits otherValue := by
  cases faulty : ascending.findSome? (·.fault? tokens) with
  | none =>
      refine Or.inl fun field => ?_
      rw [← fault?_eq_none_iff]
      exact List.findSome?_eq_none_iff.mp faulty field field.mem_ascending
  | some error =>
      obtain ⟨field, isFault, faultless⟩ := (findSome?_ascending_eq_some_iff tokens error).mp faulty
      obtain ⟨value, isValue, wrong⟩ := exists_typeError_of_fault? isFault
      refine Or.inr ⟨field, value, error, isValue, wrong, fun other otherValue less => ?_⟩
      exact (fault?_eq_none_iff tokens other).mp (faultless other less) otherValue

end SettingField

/-! ### Payloads of every form -/

structure Json.HoldsSettings (payload : Json) : Prop where
  root_isObject : payload.settingsRoot.isObject = true
  tokens_isObject : ∀ tokens, payload.tokenSettings? = some tokens → tokens.isObject = true
  admitted : ∀ (field : SettingField) (value : Json),
    field.value? payload = some value → field.Admits value

/-- Why a payload holds no settings. A setting is reported only when everything around it is an
object and every setting with a lesser key is right. -/
inductive Json.RefusedFor (payload : Json) : SettingsError → Prop where
  | root (noObject : payload.settingsRoot.isObject = false) : RefusedFor payload .notObject
  | tokens
      (rootIsObject : payload.settingsRoot.isObject = true)
      (tokens : Json)
      (present : payload.tokenSettings? = some tokens)
      (noObject : tokens.isObject = false) :
      RefusedFor payload .tokensNotObject
  | setting
      (rootIsObject : payload.settingsRoot.isObject = true)
      (tokensAreObject : ∀ tokens, payload.tokenSettings? = some tokens → tokens.isObject = true)
      (field : SettingField)
      (value : Json)
      (isValue : field.value? payload = some value)
      (error : SettingsError)
      (wrong : field.TypeError value error)
      (first : ∀ (other : SettingField) (otherValue : Json), other.key < field.key →
        other.value? payload = some otherValue → other.Admits otherValue) :
      RefusedFor payload error

/-- Two payloads that have the same under every known key. Of the objects around the settings only
this is asked, that both payloads have them or neither. -/
structure Json.SameSettings (left right : Json) : Prop where
  root_isObject : left.settingsRoot.isObject = right.settingsRoot.isObject
  tokens_isObject :
    left.tokenSettings?.map Json.isObject = right.tokenSettings?.map Json.isObject
  value_eq : ∀ field : SettingField, field.value? left = field.value? right

theorem SettingField.value?_of_tokens
    {payload tokens : Json}
    (present : payload.tokenSettings? = some tokens)
    (field : SettingField) :
    field.value? payload = tokens.get? field.key := by
  rw [value?, present, Option.bind_some]

namespace Settings

theorem ofJson_of_root
    {payload : Json}
    (noObject : payload.settingsRoot.isObject = false) :
    ofJson payload = .error .notObject := by
  unfold Json.settingsRoot at noObject
  simp [ofJson, noObject]

theorem ofJson_of_no_tokens
    {payload : Json}
    (rootIsObject : payload.settingsRoot.isObject = true)
    (absent : payload.tokenSettings? = none) :
    ofJson payload = .ok default := by
  unfold Json.settingsRoot at rootIsObject
  unfold Json.tokenSettings? at absent
  simp [ofJson, rootIsObject, absent]

theorem ofJson_of_tokens
    {payload tokens : Json}
    (rootIsObject : payload.settingsRoot.isObject = true)
    (present : payload.tokenSettings? = some tokens) :
    ofJson payload =
      if tokens.isObject then readTokens tokens else .error .tokensNotObject := by
  unfold Json.settingsRoot at rootIsObject
  unfold Json.tokenSettings? at present
  simp [ofJson, rootIsObject, present]

theorem readTokens_eq_error_iff (tokens : Json) (error : SettingsError) :
    readTokens tokens = .error error ↔
      SettingField.ascending.findSome? (·.fault? tokens) = some error := by
  unfold readTokens
  cases SettingField.ascending.findSome? (·.fault? tokens) <;> simp

/-- Only the values under the known keys are read. -/
theorem readTokens_congr
    {left right : Json}
    (same : ∀ field : SettingField, left.get? field.key = right.get? field.key) :
    readTokens left = readTokens right := by
  have faults : (fun field : SettingField => field.fault? left) =
      fun field => field.fault? right := by
    funext field
    unfold SettingField.fault?
    rw [same]
  have filled : ofTokens left = ofTokens right := by
    have types (kind : TokenKind) : left.get? kind.settingKey = right.get? kind.settingKey :=
      same (.tokenType kind)
    simp only [ofTokens, types, same]
  rw [readTokens, readTokens, faults, filled]

/-! ### The reader and the form -/

theorem exists_ofJson_eq_ok
    {payload : Json}
    (holds : payload.HoldsSettings) :
    ∃ settings, ofJson payload = .ok settings := by
  cases present : payload.tokenSettings? with
  | none => exact ⟨default, ofJson_of_no_tokens holds.root_isObject present⟩
  | some tokens =>
      refine ⟨ofTokens tokens, ?_⟩
      rw [ofJson_of_tokens holds.root_isObject present, if_pos (holds.tokens_isObject _ present),
        readTokens_eq_ok_iff]
      refine ⟨fun field => ?_, rfl⟩
      rw [SettingField.fault?_eq_none_iff]
      intro value isValue
      apply holds.admitted
      rw [SettingField.value?_of_tokens present, isValue]

theorem ofJson_eq_error_of_refusedFor
    {payload : Json}
    {error : SettingsError}
    (refused : payload.RefusedFor error) :
    ofJson payload = .error error := by
  cases refused with
  | root noObject => exact ofJson_of_root noObject
  | tokens rootIsObject tokens present noObject =>
      rw [ofJson_of_tokens rootIsObject present, noObject]
      rfl
  | setting rootIsObject tokensAreObject field value isValue error wrong first =>
      cases present : payload.tokenSettings? with
      | none => simp [SettingField.value?, present] at isValue
      | some tokens =>
          rw [ofJson_of_tokens rootIsObject present, if_pos (tokensAreObject _ present),
            readTokens_eq_error_iff, SettingField.findSome?_ascending_eq_some_iff]
          simp only [SettingField.value?_of_tokens present] at isValue first
          refine ⟨field, SettingField.fault?_of_typeError isValue wrong, fun other less => ?_⟩
          rw [SettingField.fault?_eq_none_iff]
          exact fun otherValue isOther => first other otherValue less isOther

/-- A payload has the form that holds settings, or there is a reason to refuse it. -/
theorem holdsSettings_or_refusedFor (payload : Json) :
    payload.HoldsSettings ∨ ∃ error, payload.RefusedFor error := by
  cases rootIsObject : payload.settingsRoot.isObject with
  | false => exact Or.inr ⟨_, .root rootIsObject⟩
  | true =>
      cases present : payload.tokenSettings? with
      | none =>
          refine Or.inl ⟨rootIsObject, by simp [present], fun field value isValue => ?_⟩
          simp [SettingField.value?, present] at isValue
      | some tokens =>
          cases isObject : tokens.isObject with
          | false => exact Or.inr ⟨_, .tokens rootIsObject tokens present isObject⟩
          | true =>
              have tokensAreObject : ∀ found, payload.tokenSettings? = some found →
                  found.isObject = true := by
                simp [present, isObject]
              have settled := SettingField.admitted_or_first_wrong tokens
              simp only [← SettingField.value?_of_tokens present] at settled
              rcases settled with admitted | ⟨field, value, error, isValue, wrong, first⟩
              · exact Or.inl ⟨rootIsObject, tokensAreObject, admitted⟩
              · exact Or.inr ⟨error, .setting rootIsObject tokensAreObject field value isValue
                  error wrong first⟩

theorem holdsSettings_of_ofJson
    {payload : Json}
    {settings : Settings}
    (read : ofJson payload = .ok settings) :
    payload.HoldsSettings := by
  rcases holdsSettings_or_refusedFor payload with holds | ⟨error, refused⟩
  · exact holds
  · rw [ofJson_eq_error_of_refusedFor refused] at read
    cases read

theorem ofJson_eq_error_iff (payload : Json) (error : SettingsError) :
    ofJson payload = .error error ↔ payload.RefusedFor error := by
  refine ⟨fun failed => ?_, ofJson_eq_error_of_refusedFor⟩
  rcases holdsSettings_or_refusedFor payload with holds | ⟨reason, refused⟩
  · obtain ⟨settings, read⟩ := exists_ofJson_eq_ok holds
    cases failed.symm.trans read
  · obtain rfl := Except.error.inj (failed.symm.trans (ofJson_eq_error_of_refusedFor refused))
    exact refused

/-- A payload determines the settings that are filled from it. -/
theorem FilledFrom.unique
    {left right : Settings}
    {payload : Json}
    (leftFilled : left.FilledFrom payload)
    (rightFilled : right.FilledFrom payload) :
    left = right := by
  have types (kind : TokenKind) : left.typeOf kind = right.typeOf kind := by
    cases isValue : (SettingField.tokenType kind).value? payload with
    | none => rw [leftFilled.type_of_none kind isValue, rightFilled.type_of_none kind isValue]
    | some value =>
        have same := (leftFilled.type_of_some kind value isValue).symm.trans
          (rightFilled.type_of_some kind value isValue)
        exact Json.string.inj same
  have modules : left.libraryModules = right.libraryModules := by
    cases isValue : SettingField.libraryModules.value? payload with
    | none => rw [leftFilled.modules_of_none isValue, rightFilled.modules_of_none isValue]
    | some value =>
        have same := (leftFilled.modules_of_some value isValue).symm.trans
          (rightFilled.modules_of_some value isValue)
        rw [← Json.texts_array_map_string left.libraryModules, same, Json.texts_array_map_string]
  exact ext_typeOf types modules

/-- The settings that a payload of the right form holds are those that are filled from it. -/
theorem ofJson_eq_ok_iff (payload : Json) (settings : Settings) :
    ofJson payload = .ok settings ↔ payload.HoldsSettings ∧ settings.FilledFrom payload := by
  constructor
  · exact fun read => ⟨holdsSettings_of_ofJson read, filledFrom_of_ofJson read⟩
  · rintro ⟨holds, filled⟩
    obtain ⟨others, read⟩ := exists_ofJson_eq_ok holds
    rw [read, (filledFrom_of_ofJson read).unique filled]

/-- Nothing but the values under the known keys is read. -/
theorem ofJson_eq_of_sameSettings
    {left right : Json}
    (same : left.SameSettings right) :
    ofJson left = ofJson right := by
  obtain ⟨roots, tokensAlike, valuesEq⟩ := same
  cases rootIsObject : right.settingsRoot.isObject with
  | false => rw [ofJson_of_root (roots.trans rootIsObject), ofJson_of_root rootIsObject]
  | true =>
      rw [rootIsObject] at roots
      cases rightTokens : right.tokenSettings? with
      | none =>
          rw [rightTokens, Option.map_none, Option.map_eq_none_iff] at tokensAlike
          rw [ofJson_of_no_tokens roots tokensAlike, ofJson_of_no_tokens rootIsObject rightTokens]
      | some tokens =>
          rw [rightTokens, Option.map_some, Option.map_eq_some_iff] at tokensAlike
          obtain ⟨leftTokens, present, isObject⟩ := tokensAlike
          have read : readTokens leftTokens = readTokens tokens := by
            refine readTokens_congr fun field => ?_
            rw [← SettingField.value?_of_tokens present,
              ← SettingField.value?_of_tokens rightTokens, valuesEq]
          rw [ofJson_of_tokens roots present, ofJson_of_tokens rootIsObject rightTokens, isObject,
            read]

/-- The format of settings. A payload is read exactly when it has the form that holds settings, and
then each setting has the value in the payload or else its default. Any other payload is refused
for its outermost fault, and of several wrong settings the one with the least key is reported.
Payloads that have the same under the known keys are read alike, or refused for the same reason. -/
theorem payload_read_or_refused (payload : Json) :
    ((∃ settings, ofJson payload = .ok settings) ↔ payload.HoldsSettings) ∧
      (∀ settings : Settings,
        ofJson payload = .ok settings ↔ payload.HoldsSettings ∧ settings.FilledFrom payload) ∧
      (∀ error : SettingsError, ofJson payload = .error error ↔ payload.RefusedFor error) ∧
      ∀ other : Json, payload.SameSettings other → ofJson other = ofJson payload := by
  refine ⟨⟨?_, exists_ofJson_eq_ok⟩, ofJson_eq_ok_iff payload, ofJson_eq_error_iff payload, ?_⟩
  · rintro ⟨settings, read⟩
    exact holdsSettings_of_ofJson read
  · exact fun other same => (ofJson_eq_of_sameSettings same).symm

/-- Settings under the name of the service, among other things, with two of them wrong. -/
def crowdedPayload : Json :=
  .object [("editor", .null),
    ("hieroglyph", .object
      [("semanticTokens", .object
          [("classToken", .string "struct"),
            ("defaultLibraryModules", .array [.string "M", .bool true]),
            ("underline", .bool false),
            ("variableToken", .number (.integer 5))]),
        ("trace", .string "off")])]

def barePayload : Json :=
  .object [("semanticTokens", .object
    [("classToken", .string "struct"),
      ("defaultLibraryModules", .array [.string "M", .bool true]),
      ("variableToken", .number (.integer 5))])]

/-- Both payloads are refused for the item that is no text, and not for the number, whose key comes
later. -/
theorem payload_read_or_refused_crowded :
    crowdedPayload.SameSettings barePayload ∧
      ofJson barePayload = ofJson crowdedPayload ∧
      crowdedPayload.RefusedFor (.wrongType (.bool true) .text) ∧
      ¬ crowdedPayload.HoldsSettings ∧
      (SettingsError.wrongType (.bool true) .text).message =
        "invalid type: boolean `true`, expected a string" := by
  have same : crowdedPayload.SameSettings barePayload := by
    refine ⟨rfl, rfl, fun field => ?_⟩
    cases field with
    | tokenType kind => cases kind <;> rfl
    | libraryModules => rfl
  have failed : ofJson crowdedPayload = .error (.wrongType (.bool true) .text) := rfl
  obtain ⟨accepted, -, refused, alike⟩ := payload_read_or_refused crowdedPayload
  refine ⟨same, alike _ same, (refused _).mp failed, fun holds => ?_, rfl⟩
  obtain ⟨settings, read⟩ := accepted.mpr holds
  cases failed.symm.trans read

end Settings

end Highlight
