import Highlight.Settings.Format
import Mathlib.Data.Set.List

/-!
Contract: what a payload says of each setting.

Owns: the value that a payload has for a setting, in either nesting, and the
settings that are read from a payload. Each of them is taken from the payload or,
where it has none, is the default.

Does not own: payloads that hold no settings, and why they are refused.
-/

set_option autoImplicit false

namespace Highlight

/-- The token settings of a payload, which may be nested under the name of the service. -/
def Json.tokenSettings? (payload : Json) : Option Json :=
  ((payload.get? Settings.serviceKey).getD payload).get? Settings.tokensKey

namespace SettingField

def value? (field : SettingField) (payload : Json) : Option Json :=
  payload.tokenSettings?.bind (·.get? field.key)

theorem mem_ascending (field : SettingField) : field ∈ ascending := by
  cases field with
  | tokenType kind => cases kind <;> decide
  | libraryModules => decide

end SettingField

/-- Every setting has the value that the payload has for it, and its default where the payload has
none. -/
structure Settings.FilledFrom (settings : Settings) (payload : Json) : Prop where
  type_of_some : ∀ kind value, (SettingField.tokenType kind).value? payload = some value →
    value = .string (settings.typeOf kind)
  type_of_none : ∀ kind, (SettingField.tokenType kind).value? payload = none →
    settings.typeOf kind = kind.defaultType
  modules_of_some : ∀ value, SettingField.libraryModules.value? payload = some value →
    value = .array (settings.libraryModules.map .string)
  modules_of_none : SettingField.libraryModules.value? payload = none →
    settings.libraryModules = []

/-! ### Values without a fault -/

theorem faultOfText_eq_none_iff (value : Json) :
    faultOfText value = none ↔ ∃ name, value = .string name := by
  cases value <;> simp [faultOfText]

theorem faultOfModules_eq_none_iff (value : Json) :
    faultOfModules value = none ↔ ∃ names : List String, value = .array (names.map .string) := by
  cases value with
  | array items =>
      have strings : (∀ item ∈ items, item ∈ Set.range Json.string) ↔
          items ∈ Set.range (List.map Json.string) := by
        rw [Set.range_list_map]
        rfl
      simp only [faultOfModules, List.findSome?_eq_none_iff, faultOfText_eq_none_iff,
        Json.array.injEq]
      simpa only [Set.mem_range, eq_comm] using strings
  | _ => simp [faultOfModules]

theorem Json.texts_array_map_string (names : List String) :
    Json.texts (.array (names.map .string)) = names := by
  simp [Json.texts, List.filterMap_map, Function.comp_def, Json.text?]

/-! ### Settings that were read -/

namespace Settings

theorem readTokens_eq_ok_iff (tokens : Json) (settings : Settings) :
    readTokens tokens = .ok settings ↔
      (∀ field : SettingField, field.fault? tokens = none) ∧ ofTokens tokens = settings := by
  have faultless : SettingField.ascending.findSome? (·.fault? tokens) = none ↔
      ∀ field : SettingField, field.fault? tokens = none := by
    rw [List.findSome?_eq_none_iff]
    exact ⟨fun right field => right field field.mem_ascending, fun right field _ => right field⟩
  rw [readTokens, ← faultless]
  cases SettingField.ascending.findSome? (·.fault? tokens) <;> simp

/-- A payload that is read has no token settings, or has an object of them that is read. -/
theorem ofJson_eq_ok_cases
    {payload : Json}
    {settings : Settings}
    (read : ofJson payload = .ok settings) :
    (payload.tokenSettings? = none ∧ settings = default) ∨
      ∃ tokens, payload.tokenSettings? = some tokens ∧ readTokens tokens = .ok settings := by
  rw [ofJson] at read
  rw [Json.tokenSettings?]
  generalize (payload.get? serviceKey).getD payload = root at read ⊢
  split at read
  · cases isTokens : root.get? tokensKey with
    | none =>
        rw [isTokens] at read
        exact Or.inl ⟨rfl, (Except.ok.inj read).symm⟩
    | some tokens =>
        simp only [isTokens] at read
        split at read
        · exact Or.inr ⟨tokens, rfl, read⟩
        · cases read
  · cases read

/-- Settings that are read from a payload are filled from it alone: what it does not have is the
default. -/
theorem filledFrom_of_ofJson
    {payload : Json}
    {settings : Settings}
    (read : ofJson payload = .ok settings) :
    settings.FilledFrom payload := by
  rcases ofJson_eq_ok_cases read with ⟨noTokens, rfl⟩ | ⟨tokens, isTokens, readTokens⟩
  · have noValue (field : SettingField) : field.value? payload = none := by
      rw [SettingField.value?, noTokens, Option.bind_none]
    refine ⟨fun kind value isValue => ?_, fun kind _ => typeOf_default kind,
      fun value isValue => ?_, fun _ => rfl⟩
    · cases (noValue _).symm.trans isValue
    · cases (noValue _).symm.trans isValue
  · obtain ⟨faultless, rfl⟩ := (readTokens_eq_ok_iff tokens settings).mp readTokens
    have valueEq (field : SettingField) : field.value? payload = tokens.get? field.key := by
      rw [SettingField.value?, isTokens, Option.bind_some]
    refine ⟨fun kind value isValue => ?_, fun kind noValue => ?_, fun value isValue => ?_,
      fun noValue => ?_⟩
    · rw [valueEq, SettingField.key] at isValue
      have right := faultless (.tokenType kind)
      simp only [SettingField.fault?, SettingField.key, isValue] at right
      obtain ⟨name, rfl⟩ := (faultOfText_eq_none_iff value).mp right
      simp [isValue, Json.text?]
    · rw [valueEq, SettingField.key] at noValue
      simp [noValue]
    · rw [valueEq] at isValue
      have right := faultless .libraryModules
      simp only [SettingField.fault?, isValue] at right
      obtain ⟨names, rfl⟩ := (faultOfModules_eq_none_iff value).mp right
      simp only [ofTokens, isValue, Option.map_some, Option.getD_some,
        Json.texts_array_map_string]
    · rw [valueEq] at noValue
      simp [ofTokens, noValue]

end Settings

end Highlight
