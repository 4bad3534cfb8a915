import ModelReach.Facts.Basic
import ModelReach.Text.Dotted

/-! Types as the rules see them. A type is known by its key: two descriptors with one key denote the same
type. -/
namespace ModelReach
set_option autoImplicit false

inductive Kind where
  | ofClass
  | enum
  | interface
  | primitive
  | array
  | generic
  | other
  deriving DecidableEq, Repr

inductive LeafForm where
  | primitive
  | other
  /-- A type of which nothing but its name is known. -/
  | bare
  deriving DecidableEq, Repr

/-- A type that is neither declared nor made of others. -/
structure Leaf where
  form : LeafForm
  key : String
  qualifiedName : String
  namespaceName : String
  tags : List String
  deriving DecidableEq, Repr

/-- A type. A declared class carries the number under which it was registered, since a class may be
registered again; arrays and generic types carry the types that they are made of. -/
inductive Descriptor where
  | declared (number : Nat) (facts : ClassFacts)
  | leaf (form : Leaf)
  | array (key : String) (element : Descriptor) (unique : Bool)
  | generic (key origin : String) (args : List Descriptor)

namespace Descriptor

def key : Descriptor → String
  | declared _ facts => facts.qualifiedName
  | leaf form => form.key
  | array key _ _ => key
  | generic key _ _ => key

def qualifiedName : Descriptor → String
  | declared _ facts => facts.qualifiedName
  | leaf form => form.qualifiedName
  | array key _ _ => key
  | generic key _ _ => key

def name (d : Descriptor) : String := Dotted.lastPart d.qualifiedName

def namespaceName : Descriptor → String
  | declared _ facts => facts.module
  | leaf form => form.namespaceName
  | array _ _ _ => ""
  | generic _ origin _ => Dotted.parent origin

def module? : Descriptor → Option String
  | declared _ facts => some facts.module
  | _ => none

def tags : Descriptor → List String
  | declared _ facts => facts.decorators
  | leaf form => form.tags
  | _ => []

def facts? : Descriptor → Option ClassFacts
  | declared _ facts => some facts
  | _ => none

def arguments : Descriptor → List Descriptor
  | generic _ _ args => args
  | _ => []

def element? : Descriptor → Option Descriptor
  | array _ element _ => some element
  | _ => none

def origin? : Descriptor → Option String
  | generic _ origin _ => some origin
  | _ => none

def sameType (a b : Descriptor) : Bool := a.key == b.key

end Descriptor

/-! ## Members of types -/

structure Property where
  name : String
  type : Descriptor
  hasDefault : Bool
  tags : List String

/-- A parameter with its type, if it has an annotation. -/
structure MethodParameter where
  name : String
  type : Option Descriptor
  tags : List String

structure Method where
  name : String
  returns : Option Descriptor
  parameters : List MethodParameter

end ModelReach
