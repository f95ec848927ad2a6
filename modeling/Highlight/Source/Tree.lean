import Highlight.Source.Context
import Highlight.Source.Identifier
import Std.Data.ExtTreeMap

/-!
Contract: annotated syntax trees.

Owns: places in a source text as the compiler counts them, nodes with a span and
the identifiers that occur exactly there, the way a node is built from
identifiers, and the trees of a compilation unit by file. Lines and columns
count from zero, a column counts characters, and a span is half-open.
-/

set_option autoImplicit false

namespace Highlight

/-- A place between two characters. -/
structure Position where
  line : UInt32
  column : UInt32
  deriving DecidableEq, Repr

structure Span where
  start : Position
  stop : Position
  deriving DecidableEq, Repr

def Span.isSingleLine (span : Span) : Bool :=
  span.start.line == span.stop.line

abbrev Annotations := Std.ExtTreeMap Identifier Details

/-- The annotations with one more occurrence of an identifier; details of an identifier that
already stands there are merged. -/
def Annotations.record (annotations : Annotations) (identifier : Identifier) (details : Details) :
    Annotations :=
  annotations.alter identifier fun known => some ((known.getD Details.empty).merge details)

structure Node where
  span : Span
  identifiers : Annotations
  children : List Node

namespace Node

def leaf (span : Span) : Node where
  span := span
  identifiers := ∅
  children := []

def addIdentifier (node : Node) (identifier : Identifier) (details : Details) : Node :=
  { node with identifiers := node.identifiers.record identifier details }

def addIdentifiers (node : Node) (occurrences : List (Identifier × Details)) : Node :=
  occurrences.foldl (fun node (identifier, details) => node.addIdentifier identifier details) node

def addChild (node : Node) (child : Node) : Node :=
  { node with children := node.children ++ [child] }

end Node

/-- The syntax trees of a compilation unit, by file. -/
structure AnnotatedTree where
  files : Std.ExtTreeMap String Node

namespace AnnotatedTree

def empty : AnnotatedTree where
  files := ∅

/-- The trees with one file's tree added, in place of one for the same file. -/
def addFile (tree : AnnotatedTree) (file : String) (root : Node) : AnnotatedTree where
  files := tree.files.insert file root

def file? (tree : AnnotatedTree) (file : String) : Option Node :=
  tree.files[file]?

end AnnotatedTree

end Highlight
