import Highlight.Url.Basic
import Highlight.Url.Host
import Highlight.Url.Path

/-!
Contract: reading a URL and bringing it to its normal form.

Owns: the division of a text into scheme, authority, path, query and fragment,
and the normal text made from them. Blanks and controls around the text and tabs
and line breaks inside it are left out. Only texts with a scheme are URLs here.
-/

set_option autoImplicit false

namespace Highlight

structure UrlParts where
  scheme : List Char
  authority : Option (List Char)
  path : List Char
  tail : List Char
  deriving DecidableEq, Repr

def UrlParts.text (parts : UrlParts) : List Char :=
  let middle :=
    match parts.authority, parts.path with
    | some authority, _ => ['/', '/'] ++ authority
    | none, '/' :: '/' :: _ => ['/', '.']
    | none, _ => []
  parts.scheme ++ [':'] ++ middle ++ parts.path ++ parts.tail

namespace UrlReader

/-- The text without controls and blanks around it. -/
def trimmed (text : List Char) : List Char :=
  let isEdge := fun (c : Char) => decide (c.toNat ≤ 0x20)
  ((text.dropWhile isEdge).reverse.dropWhile isEdge).reverse

def isSchemeChar (c : Char) : Bool :=
  c.isAlphanum || c == '+' || c == '-' || c == '.'

/-- The scheme in lower case and the text after its colon. -/
def scheme? (text : List Char) : Option (List Char × List Char) :=
  match text.dropWhile (· != ':') with
  | ':' :: rest =>
      let name := withoutIgnored (text.takeWhile (· != ':'))
      if name.head?.any Char.isAlpha && name.all isSchemeChar then
        some (name.map Char.toLower, rest)
      else none
  | _ => none

def kindOf (scheme : List Char) : SchemeKind :=
  if scheme == "file".toList then .file
  else if ["http", "https", "ws", "wss", "ftp"].any (·.toList == scheme) then .web
  else .other

def defaultPort? (scheme : List Char) : Option Nat :=
  if ["http", "ws"].any (·.toList == scheme) then some 80
  else if ["https", "wss"].any (·.toList == scheme) then some 443
  else if scheme == "ftp".toList then some 21
  else none

def startsTail (c : Char) : Bool :=
  c == '?' || c == '#'

/-- Query and fragment in normal form, with their marks. -/
def tail (kind : SchemeKind) (text : List Char) : List Char :=
  let fragment := fun (rest : List Char) =>
    match rest with
    | '#' :: rest => '#' :: Percent.encode Percent.inFragment rest
    | _ => []
  match text with
  | '?' :: rest =>
      let set := if kind = .other then Percent.inQuery else Percent.inWebQuery
      '?' :: Percent.encode set (rest.takeWhile (· != '#')) ++ fragment (rest.dropWhile (· != '#'))
  | _ => fragment text

def pathAndTail (kind : SchemeKind) (before text : List Char) : UrlPath.Progress × List Char :=
  let rest := text.dropWhile fun c => !startsTail c
  (UrlPath.read kind before (text.takeWhile fun c => !startsTail c), tail kind (withoutIgnored rest))

def endsAuthority (kind : SchemeKind) (c : Char) : Bool :=
  kind.isSlash c || startsTail c

/-- A file URL on a host, with the path after it. A URL with a drive letter has no host. -/
def fileParts (host : List Char) (read : UrlPath.Progress × List Char) : UrlParts where
  scheme := "file".toList
  authority := some (if read.1.hasDrive then [] else host)
  path := read.1.path
  tail := read.2

/-- What follows a slash at the start of a file URL, tabs and line breaks left aside. -/
def afterSlash? (text : List Char) : Option (List Char) :=
  match text.dropWhile isIgnoredInUrl with
  | first :: rest => if SchemeKind.file.isSlash first then some rest else none
  | [] => none

/-- A file URL, from the text after two slashes. A drive letter in the place of the host belongs
to the path. Where the host is empty or this machine, the path has a slash before its own. -/
def fileWithHost (text : List Char) : Except UrlError UrlParts := do
  let name := withoutIgnored (text.takeWhile fun c => !endsAuthority .file c)
  let after := text.dropWhile fun c => !endsAuthority .file c
  if UrlPath.isDriveLetter name then
    pure (fileParts [] (pathAndTail .file ['/'] text))
  else if name.isEmpty then
    pure (fileParts [] (pathAndTail .file ['/'] after))
  else
    let host ← Host.domain name
    if host == "localhost".toList then
      pure (fileParts [] (pathAndTail .file ['/'] after))
    else
      pure (fileParts host (pathAndTail .file ['/'] ((afterSlash? after).getD after)))

def file (text : List Char) : Except UrlError UrlParts :=
  match afterSlash? text with
  | none => .ok (fileParts [] (pathAndTail .file ['/'] text))
  | some rest =>
      match afterSlash? rest with
      | none => .ok (fileParts [] (pathAndTail .file [] text))
      | some rest => fileWithHost rest

/-- User name and password in normal form, with the sign that ends them. -/
def userinfo (text : List Char) : List Char :=
  let name := Percent.encode Percent.inUserinfo (text.takeWhile (· != ':'))
  let password := Percent.encode Percent.inUserinfo ((text.dropWhile (· != ':')).drop 1)
  let body := if password.isEmpty then name else name ++ [':'] ++ password
  if body.isEmpty then [] else body ++ ['@']

def atLastSign (text : List Char) : Option (List Char × List Char) :=
  if text.contains '@' then
    let reversed := text.reverse
    some (((reversed.dropWhile (· != '@')).drop 1).reverse, (reversed.takeWhile (· != '@')).reverse)
  else none

/-- Length of a host: it ends at a colon outside brackets. -/
def hostLength (inBrackets : Bool) : List Char → Nat
  | [] => 0
  | ':' :: rest => if inBrackets then 1 + hostLength inBrackets rest else 0
  | '[' :: rest => 1 + hostLength true rest
  | ']' :: rest => 1 + hostLength false rest
  | _ :: rest => 1 + hostLength inBrackets rest

/-- Port in normal form, with its colon; nothing for the port that the scheme implies. -/
def port (scheme digits : List Char) : Except UrlError (List Char) :=
  let number := digits.foldl (fun total c => total * 10 + (c.toNat - '0'.toNat)) 0
  if 0xffff < number then .error .invalidPort
  else if digits.isEmpty || defaultPort? scheme == some number then .ok []
  else .ok (':' :: Nat.toDigits 10 number)

/-- The authority in normal form, and what is left of its text. A backslash after the port, or
nothing, may be left; `after` is the text that follows the authority. -/
def authority (scheme : List Char) (kind : SchemeKind) (text after : List Char) :
    Except UrlError (List Char × List Char) := do
  let (user, address) := (atLastSign text).getD ([], text)
  if text.head? = some '@' ∧ user = [] ∧ address = [] ∧ after ≠ [] then throw .emptyHost
  let login := userinfo user
  let length := hostLength false address
  let name := address.take length
  let number := (address.drop length).drop 1
  if name.isEmpty ∧ (kind = .web ∨ length < address.length ∨ login ≠ []) then throw .emptyHost
  let host ← if kind = .other then Host.verbatim name else Host.domain name
  let left := number.dropWhile Char.isDigit
  if left ≠ [] ∧ left.head? ≠ some '\\' then throw .invalidPort
  let ending ← port scheme (number.takeWhile Char.isDigit)
  pure (login ++ host ++ ending, left)

def withAuthority (scheme : List Char) (kind : SchemeKind) (text : List Char) :
    Except UrlError UrlParts := do
  let region := text.takeWhile fun c => !endsAuthority kind c
  let after := text.dropWhile fun c => !endsAuthority kind c
  let (authority, left) ← authority scheme kind region after
  let (before, rest) :=
    match kind, left ++ after with
    | .other, rest => if left.isEmpty then ([], rest) else (['/'], rest)
    | _, c :: beyond => if kind.isSlash c then (['/'], beyond) else (['/'], c :: beyond)
    | _, [] => (['/'], [])
  let (progress, tail) := pathAndTail kind before rest
  pure ⟨scheme, some authority, progress.path, tail⟩

def general (scheme : List Char) (kind : SchemeKind) (text : List Char) : Except UrlError UrlParts :=
  match kind, text with
  | .other, '/' :: '/' :: rest => withAuthority scheme .other rest
  | .other, '/' :: rest =>
      let (progress, tail) := pathAndTail .other ['/'] rest
      .ok ⟨scheme, none, progress.path, tail⟩
  | .other, _ =>
      let body := text.takeWhile fun c => !startsTail c
      let after := text.dropWhile fun c => !startsTail c
      .ok ⟨scheme, none, Percent.encode Percent.controls body, tail .other after⟩
  | _, _ => withAuthority scheme kind (text.dropWhile kind.isSlash)

def parts (text : List Char) : Except UrlError UrlParts :=
  match scheme? (trimmed text) with
  | none => .error .noScheme
  | some (scheme, rest) =>
      match kindOf scheme with
      | .file => file rest
      | kind => general scheme kind (withoutIgnored rest)

end UrlReader

/-- Reads a URL and brings it to its normal form. -/
def Url.parse (text : String) : Except UrlError Url := do
  let parts ← UrlReader.parts text.toList
  pure ⟨String.ofList parts.text⟩

instance : UrlReading where
  parse := Url.parse

end Highlight
