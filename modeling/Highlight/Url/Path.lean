import Highlight.Text.Column
import Highlight.Url.Percent

/-!
Contract: normalization of URL paths.

Owns: the reading of a path segment by segment. A segment `.` is dropped, `..`
takes the segment before it away, in any spelling of the dots, and everything
else is percent-encoded. In a file URL a leading drive letter stays in place and
gets its colon, and slashes at the start are one. Tabs and line breaks are left
out, but in a file URL one that follows a leading drive letter ends the drive
letter's segment.
-/

set_option autoImplicit false

namespace Highlight

inductive SchemeKind where
  | file
  | web
  | other
  deriving DecidableEq, Repr

/-- In file and web URLs a backslash divides like a slash. -/
def SchemeKind.isSlash (kind : SchemeKind) (c : Char) : Bool :=
  c == '/' || (c == '\\' && kind != .other)

/-- A tab or a line break, which a URL leaves out. -/
def isIgnoredInUrl (c : Char) : Bool :=
  c == '\t' || c == '\n' || c == '\r'

def withoutIgnored (text : List Char) : List Char :=
  text.filter fun c => !isIgnoredInUrl c

namespace UrlPath

/-- An ASCII letter and a colon or bar. -/
def isDriveLetter : List Char → Bool
  | [letter, mark] => letter.isAlpha && (mark == ':' || mark == '|')
  | _ => false

def isPlainDriveLetter : List Char → Bool
  | [letter, mark] => letter.isAlpha && mark == ':'
  | _ => false

/-- The text starts with a drive letter that ends its segment. -/
def startsWithDriveLetter : List Char → Bool
  | letter :: mark :: rest =>
      isDriveLetter [letter, mark] &&
        match rest with
        | [] => true
        | next :: _ => ['/', '\\', '?', '#'].contains next
  | _ => false

def isSingleDot (segment : List Char) : Bool :=
  [".", "%2e", "%2E"].any (·.toList == segment)

def isDoubleDot (segment : List Char) : Bool :=
  ["..", "%2e%2e", "%2e%2E", "%2E%2e", "%2E%2E", "%2e.", "%2E.", ".%2e", ".%2E"].any
    (·.toList == segment)

def endsInSlash (path : List Char) : Bool :=
  path.getLast? == some '/'

/-- The path up to its last slash, that slash included. -/
def upToLastSlash (path : List Char) : List Char :=
  (path.reverse.dropWhile (· != '/')).reverse

def afterLastSlash (path : List Char) : List Char :=
  (path.reverse.takeWhile (· != '/')).reverse

/-- The slash at the end of a path may go: it is not the first one, and the segment before it is
no drive letter. -/
def canDropSlash (path : List Char) : Bool :=
  let before := path.dropLast
  before.contains '/' && !startsWithDriveLetter (afterLastSlash before ++ ['/'])

/-- Takes the last segment of a path away, unless it is the drive letter of a file URL. -/
def dropSegment (kind : SchemeKind) (path : List Char) : List Char :=
  if kind = .file ∧ isPlainDriveLetter (afterLastSlash path) then path else upToLastSlash path

def goUp (kind : SchemeKind) (path : List Char) : List Char :=
  dropSegment kind (if endsInSlash path && canDropSlash path then path.dropLast else path)

def withSlash (path : List Char) : List Char :=
  if endsInSlash path then path else path ++ ['/']

/-- A path so far, and whether it starts with a drive letter. -/
structure Progress where
  path : List Char
  hasDrive : Bool
  deriving DecidableEq, Repr

/-- A drive letter with its colon that a tab or line break parts from the rest of a segment, and
that rest. -/
def partedDrive? (raw : List Char) : Option (List Char × List Char) :=
  match raw.dropWhile isIgnoredInUrl with
  | [] => none
  | letter :: afterLetter =>
      match afterLetter.dropWhile isIgnoredInUrl with
      | ':' :: parting :: rest =>
          let rest := withoutIgnored rest
          if letter.isAlpha && isIgnoredInUrl parting && !rest.isEmpty then
            some ([letter, ':'], rest)
          else none
      | _ => none

/-- The path after a plain segment, which is a drive letter if it is the first one of a file URL
and has the form of one. -/
def addPlain (kind : SchemeKind) (progress : Progress) (segment : List Char) : Progress :=
  if kind = .file ∧ progress.path.length = 1 ∧ isDriveLetter segment then
    ⟨progress.path ++ segment.take 1 ++ [':'], true⟩
  else
    { progress with path := progress.path ++ segment }

def addClean (kind : SchemeKind) (progress : Progress) (raw : List Char) (slash : Bool) :
    Progress :=
  let segment := Percent.encode Percent.inPath raw
  if isDoubleDot segment then
    let shorter := goUp kind progress.path
    { progress with path := if slash then withSlash shorter else shorter }
  else if isSingleDot segment then
    { progress with path := withSlash progress.path }
  else
    let longer := addPlain kind progress segment
    { longer with path := if slash then longer.path ++ ['/'] else longer.path }

/-- Adds a segment, which a slash follows or not. What follows a parted drive letter is taken as it
is, dots included. -/
def addSegment (kind : SchemeKind) (progress : Progress) (raw : List Char) (slash : Bool) :
    Progress :=
  match if kind = .file ∧ progress.path.length = 1 then partedDrive? raw else none with
  | some (drive, rest) =>
      let path := progress.path ++ drive ++ ['/'] ++ Percent.encode Percent.inPath rest
      { progress with path := if slash then path ++ ['/'] else path }
  | none => addClean kind progress (withoutIgnored raw) slash

/-- Adds segments, all but the last of which are followed by a slash. -/
def addSegments (kind : SchemeKind) (progress : Progress) : List (List Char) → Progress
  | [] => progress
  | [last] => addSegment kind progress last false
  | first :: rest => addSegments kind (addSegment kind progress first true) rest

def read (kind : SchemeKind) (before text : List Char) : Progress :=
  let progress := addSegments kind ⟨before, false⟩ (Text.pieces kind.isSlash text)
  if kind = .file then { progress with path := '/' :: progress.path.dropWhile (· == '/') }
  else progress

end UrlPath

end Highlight
