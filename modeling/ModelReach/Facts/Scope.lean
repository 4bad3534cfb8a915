import ModelReach.Facts.Builtin
import ModelReach.Source.Printer
import ModelReach.Text.Dotted

/-! What names mean inside one module. -/
namespace ModelReach.Facts
set_option autoImplicit false

/-! ## Qualified names -/

/-- Where a module's names come from: its own classes, its imports, and what every module knows. -/
structure Scope where
  module : String
  imports : List (String × String)
  localNames : List String

/-- Backports of typing features count as the features themselves. -/
def normalName (name : String) : String :=
  match "typing_extensions.".toList.isPrefixOf name.toList with
  | true => "typing." ++ String.ofList (name.toList.drop "typing_extensions.".length)
  | false => name

def Scope.headTarget (s : Scope) (head : String) : String :=
  if s.localNames.contains head then s.module ++ "." ++ head
  else match s.imports.lookup head with
  | some target => target
  | none =>
    if builtinNames.contains head then "builtins." ++ head else s.module ++ "." ++ head

def Scope.qualify (s : Scope) (name : String) : String :=
  let target := s.headTarget (Dotted.head name)
  let rest := Dotted.rest name
  normalName (if rest = "" then target else target ++ "." ++ rest)

/-- The full name of the type that an expression names; an expression that is no dotted name stands for
itself. -/
def Scope.origin (s : Scope) (e : Source.Expr) : Except Source.SourceFault String :=
  match e.dottedName? with
  | some name => .ok (s.qualify name)
  | none => e.print

/-! ## Origins with a meaning -/

def annotatedOrigin : String := "typing.Annotated"
def classVarOrigin : String := "typing.ClassVar"
def literalOrigin : String := "typing.Literal"
def unionOrigin : String := "typing.Union"

def arrayOrigins : List String :=
  ["builtins.list", "builtins.set", "builtins.frozenset", "typing.List", "typing.Set",
   "typing.FrozenSet", "typing.AbstractSet", "typing.MutableSet", "typing.Sequence",
   "typing.MutableSequence", "typing.Collection", "typing.Iterable", "typing.Iterator",
   "typing.Deque", "collections.deque", "collections.abc.Set", "collections.abc.MutableSet",
   "collections.abc.Sequence", "collections.abc.MutableSequence", "collections.abc.Collection",
   "collections.abc.Iterable", "collections.abc.Iterator"]

def setOrigins : List String :=
  ["builtins.set", "builtins.frozenset", "typing.Set", "typing.FrozenSet", "typing.AbstractSet",
   "typing.MutableSet", "collections.abc.Set", "collections.abc.MutableSet"]

/-- Types of tuples; with an ellipsis for their length they are arrays. -/
def tupleOrigins : List String := ["builtins.tuple", "typing.Tuple"]

end ModelReach.Facts
