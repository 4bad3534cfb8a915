import ModelReach.Decimal.Binary64
import ModelReach.Facts.TypeRef
import ModelReach.Text.Basic

/-! What a module's source says about its classes. -/
namespace ModelReach
set_option autoImplicit false

inductive MemberValue where
  | absent
  | bool (value : Bool)
  | int (value : Int)
  | float (value : Binary64)
  | text (value : Text)
  deriving DecidableEq, Repr

structure MemberFacts where
  name : String
  value : MemberValue

structure PropertyFacts where
  name : String
  type : TypeRef
  hasDefault : Bool
  tags : List String

structure ParameterFacts where
  name : String
  type : Option TypeRef
  tags : List String

structure MethodFacts where
  name : String
  parameters : List ParameterFacts
  returns : Option TypeRef

/-- A class statement. Its decorators are its tags. -/
structure ClassFacts where
  name : String
  module : String
  bases : List TypeRef
  decorators : List String
  docstring : Option Text
  properties : List PropertyFacts
  methods : List MethodFacts
  members : List MemberFacts

def ClassFacts.qualifiedName (c : ClassFacts) : String := c.module ++ "." ++ c.name

/-- A module: the name that it is known by, the file that it came from, and its classes. -/
structure ModuleFacts where
  module : String
  path : String
  imports : List (String × String)
  classes : List ClassFacts

end ModelReach
