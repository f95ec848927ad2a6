import Highlight.Url.Address

/-!
Contract: URIs as editors send them.

Owns: the check that a text is a URI by the generic syntax, with a scheme and
without any character outside ASCII, and the URI as the text that passed it.
The text is kept as it was sent.
-/

set_option autoImplicit false

namespace Highlight

/-- A URI by the text that an editor sent. -/
structure Uri where
  text : String
  deriving DecidableEq, Repr

namespace UriGrammar

def isUnreserved (c : Char) : Bool :=
  c.isAlphanum || c == '-' || c == '.' || c == '_' || c == '~'

def isSubDelimiter (c : Char) : Bool :=
  ['!', '$', '&', '\'', '(', ')', '*', '+', ',', ';', '='].contains c

def isHexDigit (c : Char) : Bool :=
  c.isDigit || ('a' ≤ c && c ≤ 'f') || ('A' ≤ c && c ≤ 'F')

/-- Allowed characters and percent-encoded bytes only. -/
def allowed (ok : Char → Bool) : List Char → Bool
  | [] => true
  | '%' :: a :: b :: rest => isHexDigit a && isHexDigit b && allowed ok rest
  | c :: rest => ok c && allowed ok rest

def isNameChar (c : Char) : Bool :=
  isUnreserved c || isSubDelimiter c

def isUserChar (c : Char) : Bool :=
  isNameChar c || c == ':'

def isPathChar (c : Char) : Bool :=
  isUserChar c || c == '@' || c == '/'

def isTailChar (c : Char) : Bool :=
  isPathChar c || c == '?'

/-- An address of a later version: a version in hexadecimal, a point and its text. -/
def isFutureAddress : List Char → Bool
  | mark :: rest =>
      let version := rest.takeWhile isHexDigit
      match rest.dropWhile isHexDigit with
      | '.' :: body =>
          (mark == 'v' || mark == 'V') && !version.isEmpty && !body.isEmpty && body.all isUserChar
      | _ => false
  | [] => false

def isHostAndPort (text : List Char) : Bool :=
  let isPort := fun (rest : List Char) =>
    match rest with
    | [] => true
    | c :: digits => c == ':' && digits.all Char.isDigit
  match text with
  | '[' :: rest =>
      let address := rest.takeWhile (· != ']')
      match rest.dropWhile (· != ']') with
      | ']' :: after =>
          ((Address.ipv6? address).isSome || isFutureAddress address) && isPort after
      | _ => false
  | _ => allowed isNameChar (text.takeWhile (· != ':')) && isPort (text.dropWhile (· != ':'))

def isAuthority (text : List Char) : Bool :=
  if text.contains '@' then
    allowed isUserChar (text.takeWhile (· != '@')) &&
      isHostAndPort ((text.dropWhile (· != '@')).drop 1)
  else
    isHostAndPort text

/-- A scheme: a letter, then letters, digits and a few marks. -/
def isScheme : List Char → Bool
  | [] => false
  | first :: rest =>
      first.isAlpha && rest.all fun c => c.isAlphanum || c == '+' || c == '-' || c == '.'

def isRest (text : List Char) : Bool :=
  let body := text.takeWhile fun c => c != '?' && c != '#'
  let after := text.dropWhile fun c => c != '?' && c != '#'
  let hierarchy :=
    match body with
    | '/' :: '/' :: rest =>
        isAuthority (rest.takeWhile (· != '/')) && allowed isPathChar (rest.dropWhile (· != '/'))
    | _ => allowed isPathChar body
  let fragment := fun (rest : List Char) => allowed isTailChar (rest.drop 1)
  match after with
  | '?' :: rest =>
      hierarchy && allowed isTailChar (rest.takeWhile (· != '#')) &&
        fragment (rest.dropWhile (· != '#'))
  | _ => hierarchy && fragment after

def accepts (text : List Char) : Bool :=
  match text.dropWhile (· != ':') with
  | _ :: rest => isScheme (text.takeWhile (· != ':')) && isRest rest
  | [] => false

end UriGrammar

def Uri.parse? (text : String) : Option Uri :=
  if UriGrammar.accepts text.toList then some ⟨text⟩ else none

end Highlight
