import Highlight.Domain.Direction
import Highlight.Domain.Joining
import Highlight.Domain.Mapping
import Highlight.Domain.Punycode
import Highlight.Text.Composition

/-!
Contract: domain names in ASCII.

Owns: the way from a domain name in any script to its form in ASCII. Characters
are replaced and composed, the name is cut into labels at its points, labels that
are already in ASCII form are read, all labels are checked, and those with other
characters are written in ASCII form.
-/

set_option autoImplicit false

namespace Highlight.Domain

open Highlight.Text

def asciiFormMark : List Char := ['x', 'n', '-', '-']

/-- Length of the longest text that is read as a label. -/
def greatestFormLength : Nat := 2000

/-- Length of the longest label that is written in ASCII form. -/
def greatestLabelLength : Nat := 1000

def isAscii (text : List Char) : Bool :=
  text.all fun c => c.toNat < 0x80

/-- A label in ASCII form is not of this form again, and its characters stand as they are. -/
def isFixed (label : List Char) : Bool :=
  !asciiFormMark.isPrefixOf label && label.all isValid && composed label == label

/-- The label that a text stands for: what its ASCII form says, if it is one, and else itself. -/
def readLabel? (text : List Char) : Option (List Char) :=
  if asciiFormMark.isPrefixOf text then
    let form := text.drop asciiFormMark.length
    if !isAscii form || form.isEmpty || form.getLast? == some '-' then none
    else if greatestFormLength < form.length then none
    else (Punycode.decode? form).filter isFixed
  else some text

/-- The label does not start with a mark, its joiners have their places, and it is not too long. -/
def isSound (label : List Char) : Bool :=
  !label.head?.any isMark && joinersFit label &&
    (isAscii label || label.length ≤ greatestLabelLength)

def writeLabel (label : List Char) : List Char :=
  if isAscii label then label else asciiFormMark ++ Punycode.encode label

/-- The labels of a domain name in any script. A character that is refused after the replacement
refuses the name. -/
def labels? (refused : Char → Bool) (name : List Char) : Option (List (List Char)) := do
  let normal := composed (← mapText? name)
  if normal.any refused then none
  else
    let labels ← (pieces (· == '.') normal).mapM readLabel?
    if labels.all isSound && directionsAgree labels then some labels else none

def toAscii? (refused : Char → Bool) (name : List Char) : Option (List Char) :=
  (labels? refused name).map fun labels => ['.'].intercalate (labels.map writeLabel)

end Highlight.Domain
