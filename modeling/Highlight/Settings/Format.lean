import Highlight.Json.Value
import Highlight.Settings.Basic
import Highlight.Text.Quoted

/-!
Contract: settings as clients send them.

Owns: reading settings from a JSON payload, the reasons for refusing one, and
writing settings as JSON. A payload may nest the settings under the name of the
service. A setting that is missing has its default; keys that are not known are
ignored. Of several settings of a wrong type, the one with the least key is
reported.
-/

set_option autoImplicit false

namespace Highlight

inductive ExpectedType where
  | text
  | sequence
  deriving DecidableEq, Repr

inductive SettingsError where
  | notObject
  | tokensNotObject
  | wrongType (found : Json) (expected : ExpectedType)
  deriving Repr

/-- A JSON value as error messages name it. -/
def Json.describe : Json → String
  | .null => "null"
  | .bool true => "boolean `true`"
  | .bool false => "boolean `false`"
  | .number (.integer value) => "integer `" ++ toString value ++ "`"
  | .number (.binary bits) => "floating point `" ++ Number.textOfBits bits ++ "`"
  | .string value => "string " ++ Text.quoted value
  | .array _ => "sequence"
  | .object _ => "map"

def ExpectedType.describe : ExpectedType → String
  | .text => "a string"
  | .sequence => "a sequence"

def SettingsError.message : SettingsError → String
  | .notObject => "settings must be a JSON object"
  | .tokensNotObject => "semanticTokens must be a JSON object"
  | .wrongType found expected =>
      "invalid type: " ++ found.describe ++ ", expected " ++ expected.describe

def Json.text? : Json → Option String
  | .string value => some value
  | _ => none

def faultOfText (value : Json) : Option SettingsError :=
  match value with
  | .string _ => none
  | found => some (.wrongType found .text)

/-- What is wrong with a value for the list of library modules; the first item that is no string
is reported. -/
def faultOfModules (value : Json) : Option SettingsError :=
  match value with
  | .array items => items.findSome? faultOfText
  | found => some (.wrongType found .sequence)

/-- What is wrong with a setting of an object; a missing one is right. -/
def SettingField.fault? (tokens : Json) (field : SettingField) : Option SettingsError :=
  match tokens.get? field.key, field with
  | none, _ => none
  | some value, .tokenType _ => faultOfText value
  | some value, .libraryModules => faultOfModules value

def Json.texts : Json → List String
  | .array items => items.filterMap Json.text?
  | _ => []

namespace Settings

/-- The settings that an object holds, without regard to wrong types. -/
def ofTokens (tokens : Json) : Settings where
  types := .filled "" fun kind =>
    ((tokens.get? kind.settingKey).bind Json.text?).getD kind.defaultType
  libraryModules :=
    ((tokens.get? SettingField.libraryModules.key).map Json.texts).getD []

@[simp] theorem typeOf_ofTokens (tokens : Json) (kind : TokenKind) :
    (ofTokens tokens).typeOf kind =
      ((tokens.get? kind.settingKey).bind Json.text?).getD kind.defaultType := by
  rw [typeOf, ofTokens, KindTable.get_filled]

def readTokens (tokens : Json) : Except SettingsError Settings :=
  match SettingField.ascending.findSome? (·.fault? tokens) with
  | some fault => .error fault
  | none => .ok (ofTokens tokens)

/-- The name of the service, under which a payload may nest the settings. -/
def serviceKey : String := "hieroglyph"

def tokensKey : String := "semanticTokens"

def ofJson (payload : Json) : Except SettingsError Settings :=
  let root := (payload.get? serviceKey).getD payload
  if root.isObject then
    match root.get? tokensKey with
    | none => .ok default
    | some tokens => if tokens.isObject then readTokens tokens else .error .tokensNotObject
  else
    .error .notObject

def member (settings : Settings) (field : SettingField) : String × Json :=
  match field with
  | .tokenType kind => (field.key, .string (settings.typeOf kind))
  | .libraryModules => (field.key, .array (settings.libraryModules.map .string))

/-- Settings as a payload, with every setting present. -/
def toJson (settings : Settings) : Json :=
  .object [(tokensKey, .object (SettingField.ascending.map settings.member))]

end Settings

end Highlight
