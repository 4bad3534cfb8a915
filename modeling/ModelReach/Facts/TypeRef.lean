/-! References to types as they are written: a named type, an array, or a generic type with
arguments. -/
namespace ModelReach
set_option autoImplicit false

/-- A reference to a type. An array without repetition and order is `unique`. -/
inductive TypeRef where
  | named (name : String)
  | array (element : TypeRef) (unique : Bool)
  | generic (origin : String) (args : List TypeRef)
  deriving Inhabited

namespace TypeRef

mutual

/-- The key of a reference: the one text under which its type is known. -/
def key : TypeRef → String
  | .named name => name
  | .array element unique => (if unique then "set[" else "list[") ++ element.key ++ "]"
  | .generic origin args => origin ++ "[" ++ ", ".intercalate (keys args) ++ "]"

def keys : List TypeRef → List String
  | [] => []
  | r :: rest => r.key :: keys rest

end

/-- The name of the class that a base refers to; arguments do not count. -/
def baseName? : TypeRef → Option String
  | .named name => some name
  | .array _ _ => none
  | .generic origin _ => some origin

end TypeRef
end ModelReach
