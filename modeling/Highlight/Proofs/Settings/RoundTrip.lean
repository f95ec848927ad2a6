import Highlight.Proofs.Settings.Acceptance
import Highlight.Token.Encoding

/-!
Contract: written settings are read back.

Owns: what stands under each key of written settings, and the round trip through
a payload, nested under the name of the service or not. Writer and reader meet at
the form of payloads: written settings have this form and are filled from what
was written, whatever the texts and modules are. A payload that is read is
thereby as good as its settings written anew, which is the same payload for all
payloads with these settings.

Does not own: the text of a payload.
-/

set_option autoImplicit false

namespace Highlight

namespace Settings

theorem member_fst (settings : Settings) (field : SettingField) :
    (settings.member field).1 = field.key := by
  cases field <;> rfl

/-- Each setting is found under its key: no other setting is written under the same one. -/
theorem lookup_members (settings : Settings) (field : SettingField) :
    (SettingField.ascending.map settings.member).lookup field.key =
      some (settings.member field).2 := by
  obtain ⟨before, after, split⟩ := List.append_of_mem field.mem_ascending
  have lesser := (SettingField.key_lt_of_split split).1
  rw [List.lookup_eq_some_iff]
  refine ⟨before.map settings.member, after.map settings.member, ?_, ?_⟩
  · rw [split, List.map_append, List.map_cons, ← member_fst settings field]
  · intro written isBefore
    obtain ⟨other, otherBefore, rfl⟩ := List.mem_map.mp isBefore
    rw [member_fst, bne_iff_ne]
    exact fun same => absurd (lesser other otherBefore) (same ▸ String.lt_irrefl _)

theorem tokenSettings?_toJson (settings : Settings) :
    settings.toJson.tokenSettings? =
      some (.object (SettingField.ascending.map settings.member)) := rfl

theorem value?_toJson (settings : Settings) (field : SettingField) :
    field.value? settings.toJson = some (settings.member field).2 := by
  rw [SettingField.value?_of_tokens settings.tokenSettings?_toJson]
  exact settings.lookup_members field

theorem holdsSettings_toJson (settings : Settings) : settings.toJson.HoldsSettings := by
  refine ⟨rfl, fun tokens present => ?_, fun field value isValue => ?_⟩
  · rw [tokenSettings?_toJson] at present
    obtain rfl := Option.some.inj present
    rfl
  · rw [value?_toJson] at isValue
    obtain rfl := Option.some.inj isValue
    cases field with
    | tokenType kind => exact SettingField.Admits.text kind (settings.typeOf kind)
    | libraryModules => exact SettingField.Admits.texts settings.libraryModules

theorem filledFrom_toJson (settings : Settings) : settings.FilledFrom settings.toJson := by
  refine ⟨fun kind value isValue => ?_, fun kind noValue => ?_, fun value isValue => ?_,
    fun noValue => ?_⟩
  · rw [value?_toJson] at isValue
    exact (Option.some.inj isValue).symm
  · rw [value?_toJson] at noValue
    cases noValue
  · rw [value?_toJson] at isValue
    exact (Option.some.inj isValue).symm
  · rw [value?_toJson] at noValue
    cases noValue

theorem ofJson_toJson (settings : Settings) : ofJson settings.toJson = .ok settings :=
  (ofJson_eq_ok_iff _ _).mpr ⟨settings.holdsSettings_toJson, settings.filledFrom_toJson⟩

theorem toJson_inj {left right : Settings} : left.toJson = right.toJson ↔ left = right := by
  refine ⟨fun same => ?_, congrArg toJson⟩
  have read := ofJson_toJson left
  rw [same, ofJson_toJson] at read
  exact (Except.ok.inj read).symm

/-- A payload that is not nested is read as if it were. -/
theorem ofJson_nested
    {payload : Json}
    (plain : payload.get? serviceKey = none) :
    ofJson (.object [(serviceKey, payload)]) = ofJson payload := by
  have nestedRoot : (Json.object [(serviceKey, payload)]).settingsRoot = payload := rfl
  have plainRoot : payload.settingsRoot = payload := by
    rw [Json.settingsRoot, plain, Option.getD_none]
  have tokensEq :
      (Json.object [(serviceKey, payload)]).tokenSettings? = payload.tokenSettings? := by
    rw [Json.tokenSettings?_eq, Json.tokenSettings?_eq, nestedRoot, plainRoot]
  refine ofJson_eq_of_sameSettings ⟨?_, ?_, fun field => ?_⟩
  · rw [nestedRoot, plainRoot]
  · rw [tokensEq]
  · rw [SettingField.value?, SettingField.value?, tokensEq]

/-- Settings survive writing and reading, also nested under the name of the service. The settings
that are read from a payload, written anew, are read as the same settings and resolved as the same
encoding, and payloads with the same settings, and only those, are written anew as the same
payload. -/
theorem settings_round_trip :
    (∀ settings : Settings,
      ofJson settings.toJson = .ok settings ∧
        ofJson (.object [(serviceKey, settings.toJson)]) = .ok settings) ∧
      ∀ (payload : Json) (settings : Settings), ofJson payload = .ok settings →
        ofJson settings.toJson = .ok settings ∧
          (ofJson settings.toJson).map Encoding.ofSettings =
            (ofJson payload).map Encoding.ofSettings ∧
          ∀ other : Json,
            (ofJson other).map toJson = .ok settings.toJson ↔ ofJson other = ofJson payload := by
  refine ⟨fun settings => ⟨settings.ofJson_toJson, ?_⟩, fun payload settings read => ?_⟩
  · rw [ofJson_nested rfl, ofJson_toJson]
  · refine ⟨settings.ofJson_toJson, ?_, fun other => ?_⟩
    · rw [ofJson_toJson, read]
    · rw [read]
      cases ofJson other <;> simp [Except.map, toJson_inj]

/-- A payload with one type that the legend does not have, a module listed twice and a key that is
not known. -/
def sparsePayload : Json :=
  .object [("semanticTokens", .object
    [("classToken", .string "struct"),
      ("colour", .null),
      ("defaultLibraryModules", .array [.string "M", .string "M"]),
      ("operatorToken", .string "")])]

def sparseSettings : Settings where
  types := (default.types.set .typeClass "struct").set .operator ""
  libraryModules := ["M", "M"]

/-- The settings of the payload, written anew under all known keys, are read as the same settings,
nested or not, and resolved as the same encoding. -/
theorem settings_round_trip_sparse :
    ofJson sparsePayload = .ok sparseSettings ∧
      ofJson sparseSettings.toJson = .ok sparseSettings ∧
      ofJson (.object [(serviceKey, sparseSettings.toJson)]) = .ok sparseSettings ∧
      (ofJson sparseSettings.toJson).map Encoding.ofSettings =
        (ofJson sparsePayload).map Encoding.ofSettings ∧
      (ofJson sparseSettings.toJson).map toJson = .ok sparseSettings.toJson := by
  have read : ofJson sparsePayload = .ok sparseSettings := by
    have filled : ofTokens (.object
        [("classToken", .string "struct"),
          ("colour", .null),
          ("defaultLibraryModules", .array [.string "M", .string "M"]),
          ("operatorToken", .string "")]) = sparseSettings := by
      decide
    exact congrArg Except.ok filled
  obtain ⟨roundTrip, normal⟩ := settings_round_trip
  obtain ⟨again, sameEncoding, sameForm⟩ := normal sparsePayload sparseSettings read
  exact ⟨read, again, (roundTrip sparseSettings).2, sameEncoding,
    (sameForm _).mpr (again.trans read.symm)⟩

end Settings

end Highlight
