import ModelReach.Decimal.Binary64
import ModelReach.Text.Basic

/-! JSON values. The fields of an object have an order; a text may hold surrogates that stand alone. -/
namespace ModelReach
set_option autoImplicit false

inductive Json where
  | null
  | bool (value : Bool)
  | int (value : Int)
  | float (value : Binary64)
  | text (value : Text)
  | array (items : List Json)
  | object (fields : List (Text × Json))
  deriving Inhabited

namespace Json

def ofString (s : String) : Json := .text (Text.ofString s)

def ofStrings (ss : List String) : Json := .array (ss.map ofString)

/-- Give a field a value. A field that is there keeps its place. -/
def put {α : Type} (fields : List (Text × α)) (name : Text) (value : α) : List (Text × α) :=
  if fields.any (·.1 == name) then
    fields.map fun f => if f.1 == name then (name, value) else f
  else fields ++ [(name, value)]

def record (fields : List (String × Json)) : Json :=
  .object (fields.map fun f => (Text.ofString f.1, f.2))

def field? (fields : List (Text × Json)) (name : String) : Option Json :=
  fields.lookup (Text.ofString name)

def isNull : Json → Bool
  | .null => true
  | _ => false

end Json
end ModelReach
