import Highlight.Token.Legend

/-!
Contract: the settings of the service.

Owns: which token type each kind is shown as, which modules are default
libraries, the settings that hold without configuration, and the keys under
which clients send each setting.
-/

set_option autoImplicit false

namespace Highlight

/-- Token types by kind, and the modules whose names are marked as default library. -/
structure Settings where
  types : KindTable String
  libraryModules : List String
  deriving DecidableEq

namespace Settings

def typeOf (settings : Settings) (kind : TokenKind) : String :=
  settings.types.get kind

def default : Settings where
  types := .filled "" TokenKind.defaultType
  libraryModules := []

@[simp] theorem typeOf_default (kind : TokenKind) : default.typeOf kind = kind.defaultType := by
  rw [typeOf, default, KindTable.get_filled]

/-- Settings are told apart by what they say of some kind, or by their modules. -/
theorem ext_typeOf
    {left right : Settings}
    (types : ∀ kind, left.typeOf kind = right.typeOf kind)
    (modules : left.libraryModules = right.libraryModules) :
    left = right := by
  cases left
  cases right
  rw [mk.injEq]
  exact ⟨KindTable.ext_get types, modules⟩

end Settings

/-- The key under which a client configures the type of a kind. -/
def TokenKind.settingKey : TokenKind → String
  | .var => "variableToken"
  | .function => "functionToken"
  | .dataConstructor => "dataConstructorToken"
  | .typeVariable => "typeVariableToken"
  | .classMethod => "classMethodToken"
  | .patternSynonym => "patternSynonymToken"
  | .typeConstructor => "typeConstructorToken"
  | .typeClass => "classToken"
  | .typeSynonym => "typeSynonymToken"
  | .typeFamily => "typeFamilyToken"
  | .recordField => "recordFieldToken"
  | .operator => "operatorToken"
  | .moduleName => "moduleToken"

inductive SettingField where
  | tokenType (kind : TokenKind)
  | libraryModules
  deriving DecidableEq, Repr

namespace SettingField

def key : SettingField → String
  | .tokenType kind => kind.settingKey
  | .libraryModules => "defaultLibraryModules"

/-- All settings in ascending order of their keys. -/
def ascending : List SettingField :=
  [.tokenType .classMethod, .tokenType .typeClass, .tokenType .dataConstructor, .libraryModules,
    .tokenType .function, .tokenType .moduleName, .tokenType .operator,
    .tokenType .patternSynonym, .tokenType .recordField, .tokenType .typeConstructor,
    .tokenType .typeFamily, .tokenType .typeSynonym, .tokenType .typeVariable, .tokenType .var]

end SettingField

end Highlight
