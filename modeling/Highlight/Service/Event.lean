import Highlight.Service.Failure
import Highlight.Settings.Format
import Highlight.Url.Basic
import Highlight.Url.Uri

/-!
Contract: what the service reports in its log.

Owns: the events of the log, and for each its level, its target and its text.
-/

set_option autoImplicit false

namespace Highlight

/-- Where a settings payload came from. -/
inductive SettingsSource where
  | initialization
  | configuration
  deriving DecidableEq, Repr

def SettingsSource.describe : SettingsSource → String
  | .initialization => "initialization options"
  | .configuration => "client configuration"

inductive UriUse where
  | close
  | full
  | delta
  deriving DecidableEq, Repr

def UriUse.describe : UriUse → String
  | .close => "didClose"
  | .full => "semanticTokens/full"
  | .delta => "semanticTokens/full/delta"

inductive Level where
  | error
  | warn
  | info
  | debug
  | trace
  deriving DecidableEq, Repr

def Level.label : Level → String
  | .error => "ERROR"
  | .warn => "WARN"
  | .info => "INFO"
  | .debug => "DEBUG"
  | .trace => "TRACE"

inductive Event where
  | reusing (url : Url)
  | computing (url : Url) (tree names : UInt64)
  | noTokens (url : Url) (failure : Failure)
  | ruleFailed (url : Url) (failure : Failure)
  | notCached (url : Url) (incoming cached : Option Int)
  | unknownType (unknown : UnknownType)
  | settingsApplied (source : SettingsSource)
  | settingsIgnored (source : SettingsSource) (reason : SettingsError)
  | initializing
  | shuttingDown
  | opened (uri : Uri) (version : Int)
  | closed (url : Url)
  | invalidUri (use : UriUse) (uri : Uri)
  deriving Repr

namespace Event

def versionText : Option Int → String
  | none => "None"
  | some version => "Some(" ++ toString version ++ ")"

def level : Event → Level
  | .reusing _ => .trace
  | .computing .. => .debug
  | .noTokens .. => .warn
  | .ruleFailed .. => .error
  | .notCached .. => .debug
  | .unknownType _ => .warn
  | .settingsApplied _ => .info
  | .settingsIgnored .. => .warn
  | .initializing => .info
  | .shuttingDown => .info
  | .opened .. => .debug
  | .closed _ => .debug
  | .invalidUri .. => .warn

/-- The part of the service that reports the event. -/
def target : Event → String
  | .reusing _ => "hieroglyph::rule"
  | .computing .. => "hieroglyph::rule"
  | .noTokens .. => "hieroglyph::rule"
  | .ruleFailed .. => "hieroglyph::rule"
  | .notCached .. => "hieroglyph::cache"
  | .unknownType _ => "hieroglyph::semantic"
  | .settingsApplied _ => "hieroglyph::settings"
  | .settingsIgnored .. => "hieroglyph::settings"
  | .initializing => "hieroglyph::lsp"
  | .shuttingDown => "hieroglyph::lsp"
  | .opened .. => "hieroglyph::lsp"
  | .closed _ => "hieroglyph::lsp"
  | .invalidUri .. => "hieroglyph::lsp"

def message : Event → String
  | .reusing url => "Reusing tokens for " ++ url.href
  | .computing url tree names =>
      "Computing tokens for " ++ url.href ++ " (ast=" ++ toString tree.toNat ++ ", names=" ++
        toString names.toNat ++ ")"
  | .noTokens url failure => "No semantic tokens for " ++ url.href ++ ": " ++ failure.message
  | .ruleFailed url failure =>
      "Semantic token rule failed for " ++ url.href ++ ": " ++ failure.message
  | .notCached url incoming cached =>
      "Not caching tokens for " ++ url.href ++ " (version " ++ versionText incoming ++
        "): cache holds version " ++ versionText cached
  | .unknownType unknown =>
      "Unknown semantic token type " ++ Text.quoted unknown.configured ++ " configured for " ++
        unknown.kind.label ++ ", using " ++ Text.quoted unknown.kind.defaultType
  | .settingsApplied source => "Applied settings from " ++ source.describe
  | .settingsIgnored source reason =>
      "Ignoring invalid settings from " ++ source.describe ++ ": " ++ reason.message
  | .initializing => "Received initialization request"
  | .shuttingDown => "Shutting down"
  | .opened uri version => "Opened " ++ uri.text ++ " (version " ++ toString version ++ ")"
  | .closed url => "Closed " ++ url.href
  | .invalidUri use uri => "Invalid URI in " ++ use.describe ++ ": " ++ uri.text

def line (event : Event) : String :=
  event.level.label ++ " " ++ event.target ++ ": " ++ event.message

end Event

end Highlight
