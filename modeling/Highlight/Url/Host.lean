import Highlight.Domain.Name
import Highlight.Url.Address
import Highlight.Url.Basic

/-!
Contract: hosts of URLs.

Owns: the normal form of a host. Hosts of web and file URLs are domains or
numeric addresses; hosts of other schemes are kept as written, apart from
percent-encoding. Domains are brought to their ASCII form.
-/

set_option autoImplicit false

namespace Highlight

namespace Host

def isForbidden (c : Char) : Bool :=
  c.toNat = 0 || ['\t', '\n', '\r', ' ', '#', '/', ':', '<', '>', '?', '@', '[', '\\', ']', '^',
    '|'].contains c

def isForbiddenInDomain (c : Char) : Bool :=
  isForbidden c || c.toNat ≤ 0x1f || c == '%' || c.toNat = 0x7f

/-- The address between brackets, in its canonical text. -/
def bracketed (text : List Char) : Except UrlError (List Char) :=
  if text.getLast? = some ']' then
    match Address.ipv6? (text.drop 1).dropLast with
    | some groups => .ok (['['] ++ Address.ipv6Text groups ++ [']'])
    | none => .error .invalidIpv6
  else
    .error .invalidIpv6

/-- Host of a web or file URL. -/
def domain (text : List Char) : Except UrlError (List Char) :=
  match text with
  | '[' :: _ => bracketed text
  | _ =>
      match Domain.toAscii? isForbiddenInDomain (Text.decodeLossy (Percent.decode text)) with
      | none => .error .invalidDomain
      | some name =>
          if name.isEmpty then .error .emptyHost
          else if Address.endsInNumber name then
            match Address.ipv4? name with
            | some address => .ok address
            | none => .error .invalidIpv4
          else .ok name

/-- Host of any other URL. -/
def verbatim (text : List Char) : Except UrlError (List Char) :=
  match text with
  | '[' :: _ => bracketed text
  | _ =>
      if text.any isForbidden then .error .invalidHostCharacter
      else .ok (Percent.encode Percent.controls text)

end Host

end Highlight
