import Highlight.Url.Percent

/-!
Contract: normalized URLs and what is read off them.

Owns: a URL as its normalized text, its authority, host and path, the key under
which a document's syntax tree is filed, and why a text is not a URL. Two URLs
are equal exactly when their texts are.

Does not own: the normalization, which is the business of reading a URL. It
enters only as `UrlReading`.
-/

set_option autoImplicit false

namespace Highlight

/-- A URL by its normalized text. -/
structure Url where
  href : String
  deriving DecidableEq, Repr, Inhabited

namespace Url

instance : Ord Url where
  compare := compareOn Url.href

instance : Std.TransOrd Url :=
  inferInstanceAs (Std.TransCmp (compareOn Url.href))

instance : Std.LawfulEqOrd Url where
  eq_of_compare := by
    intro left right same
    have texts : compare left.href right.href = .eq := same
    cases left
    cases right
    simp_all [Std.LawfulEqCmp.compare_eq_iff_eq]

def endsAuthority (c : Char) : Bool :=
  c == '/' || c == '?' || c == '#'

def afterScheme (url : Url) : List Char :=
  (url.href.toList.dropWhile (· != ':')).drop 1

def authority? (url : Url) : Option (List Char) :=
  match url.afterScheme with
  | '/' :: '/' :: rest => some (rest.takeWhile fun c => !endsAuthority c)
  | _ => none

/-- The host of the authority; empty when there is none. -/
def host (url : Url) : List Char :=
  let authority := url.authority?.getD []
  let address :=
    if authority.contains '@' then (authority.dropWhile (· != '@')).drop 1 else authority
  match address with
  | '[' :: _ => address.takeWhile (· != ']') ++ [']']
  | _ => address.takeWhile (· != ':')

/-- The path, percent-encoded. Before a path that starts with two slashes, a URL without
authority has a mark that is not part of the path. -/
def path (url : Url) : List Char :=
  let rest :=
    match url.afterScheme with
    | '/' :: '/' :: rest => rest.dropWhile fun c => !endsAuthority c
    | '/' :: '.' :: '/' :: '/' :: rest => '/' :: '/' :: rest
    | rest => rest
  rest.takeWhile fun c => c != '?' && c != '#'

/-- The URL names a place of this machine: it has no host, or the host `localhost`. -/
def isLocal (url : Url) : Bool :=
  url.host.isEmpty || url.host == "localhost".toList

/-- A path that ends in a drive letter names the root of the drive. -/
def closeDrive (bytes : List UInt8) : List UInt8 :=
  match bytes.reverse with
  | mark :: letter :: _ :: _ =>
      let isLetter := (0x41 ≤ letter && letter ≤ 0x5a) || (0x61 ≤ letter && letter ≤ 0x7a)
      if isLetter && (mark == 0x3a || mark == 0x7c) then bytes ++ [0x2f] else bytes
  | _ => bytes

/-- The key under which a document's syntax tree is filed: the decoded path of a local URL, and
the path as written of any other. -/
def fileKey (url : Url) : String :=
  match url.path with
  | '/' :: _ =>
      if url.isLocal then String.ofList (Text.decodeLossy (closeDrive (Percent.decode url.path)))
      else String.ofList url.path
  | path => String.ofList path

end Url

inductive UrlError where
  | noScheme
  | emptyHost
  | invalidPort
  | invalidDomain
  | invalidHostCharacter
  | invalidIpv4
  | invalidIpv6
  deriving DecidableEq, Repr

def UrlError.message : UrlError → String
  | .noScheme => "relative URL without a base"
  | .emptyHost => "empty host"
  | .invalidPort => "invalid port number"
  | .invalidDomain => "invalid international domain name"
  | .invalidHostCharacter => "invalid domain character"
  | .invalidIpv4 => "invalid IPv4 address"
  | .invalidIpv6 => "invalid IPv6 address"

/-- How a server reads the text of a URI as a URL. What it does with documents depends on nothing
but the outcome, so the reading is taken as given wherever no program is run. -/
class UrlReading where
  parse : String → Except UrlError Url

end Highlight
