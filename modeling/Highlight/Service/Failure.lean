import Highlight.Token.Wire

/-!
Contract: why a request for tokens fails.

Owns: the causes of failure, their wording, and which of them an editor is shown
as an empty result. A missing artifact is recoverable: it may be there for the
next request. A fault inside the service is not.
-/

set_option autoImplicit false

namespace Highlight

inductive Fault where
  | outOfOrder (token : OutOfOrder)
  | interrupted (cause : String := "")
  | other (text : String)
  deriving DecidableEq, Repr

def Fault.message : Fault → String
  | .outOfOrder token =>
      "semantic token at " ++ toString token.line.toNat ++ ":" ++ toString token.start.toNat ++
        " is out of order"
  | .interrupted cause => "semantic token rule did not complete: " ++ cause
  | .other text => text

/-- Why there are no tokens for a document. -/
inductive Failure where
  | noTree (document : String)
  | noNames (document : String)
  | noText (document : String)
  | internal (fault : Fault)
  deriving DecidableEq, Repr

namespace Failure

def message : Failure → String
  | .noTree document => "No AST available for " ++ document
  | .noNames document => "No name map available for " ++ document
  | .noText document => "No virtual file for " ++ document
  | .internal fault => "Internal error: " ++ fault.message

/-- The failure is shown as an empty result instead of an error. -/
def isRecoverable : Failure → Bool
  | .internal _ => false
  | _ => true

def isNoText : Failure → Bool
  | .noText _ => true
  | _ => false

/-- The error code that goes with every failure. -/
def code : Int := -32603

end Failure

end Highlight
