import ModelReach.Json.Basic
import ModelReach.Types.View

/-! Schemas of property types. -/
namespace ModelReach
set_option autoImplicit false

variable {m : Type → Type} [Monad m]

/-! ## Schemas -/

inductive Schema where
  | anything
  | simple (type : String) (format : Option String)
  | reference (id : String)
  | array (items : Schema) (unique : Bool)
  | anyOf (options : List Schema)
  | mapping (values : Option Schema)

namespace Schema

def null : Schema := .simple "null" none

mutual

def toJson : Schema → Json
  | .anything => .object []
  | .simple type format =>
    .record (("type", .ofString type) :: format.toList.map fun f => ("format", .ofString f))
  | .reference id => .record [("$ref", .ofString id)]
  | .array items unique =>
    .record ([("type", .ofString "array"), ("items", items.toJson)] ++
      if unique then [("uniqueItems", .bool true)] else [])
  | .anyOf options => .record [("anyOf", .array (toJsons options))]
  | .mapping none => .record [("type", .ofString "object")]
  | .mapping (some values) =>
    .record [("type", .ofString "object"), ("additionalProperties", values.toJson)]

def toJsons : List Schema → List Json
  | [] => []
  | s :: rest => s.toJson :: toJsons rest

end

end Schema

/-! ## Types with a schema of their own -/

def primitiveSchemas : List (String × Schema) :=
  [("builtins.str", .simple "string" none),
   ("builtins.int", .simple "integer" none),
   ("builtins.float", .simple "number" none),
   ("builtins.bool", .simple "boolean" none),
   ("builtins.bytes", .simple "string" (some "binary")),
   ("builtins.bytearray", .simple "string" (some "binary")),
   ("builtins.None", .null),
   ("decimal.Decimal", .simple "number" none),
   ("datetime.datetime", .simple "string" (some "date-time")),
   ("datetime.date", .simple "string" (some "date")),
   ("datetime.time", .simple "string" (some "time")),
   ("datetime.timedelta", .simple "string" (some "duration")),
   ("uuid.UUID", .simple "string" (some "uuid"))]

def optionalOrigin : String := "typing.Optional"

/-- Origins of types that leave a choice between their arguments. -/
def choiceOrigins : List String := ["typing.Union", optionalOrigin]

def mappingOrigins : List String :=
  ["builtins.dict", "typing.Dict", "typing.Mapping", "typing.MutableMapping", "typing.DefaultDict",
   "typing.OrderedDict", "collections.OrderedDict", "collections.defaultdict",
   "collections.abc.Mapping", "collections.abc.MutableMapping"]

/-- Origins whose schema is that of their single argument. -/
def transparentOrigins : List String :=
  ["typing.Final", "typing.Required", "typing.NotRequired", "typing.ReadOnly"]

def Descriptor.isOptional : Descriptor → Bool
  | .generic _ origin args =>
    origin == optionalOrigin ||
      (origin == "typing.Union" && args.any (·.qualifiedName == "builtins.None"))
  | _ => false

/-! ## Property types -/

/-- A choice between schemas; a single one is no choice. -/
def Schema.choice : List Schema → Schema
  | [s] => s
  | options => .anyOf options

/-- The schema of a generic type, from its origin and the schemas of its arguments, which are asked for
only as needed. -/
def genericSchema (origin : String) (args : List (m Schema)) : m Schema := do
  if choiceOrigins.contains origin then
    let options ← args.mapM id
    pure (.choice (options ++ if origin = optionalOrigin then [.null] else []))
  else if mappingOrigins.contains origin then
    match args with
    | [_, values] => do
      let values ← values
      pure (.mapping (some values))
    | _ => pure (.mapping none)
  else match transparentOrigins.contains origin, args with
  | true, [arg] => arg
  | _, _ => pure .anything

/-- What the schema of a type without parts is, by its kind. -/
def schemaOfKind (t : Descriptor) : Kind → Schema
  | .primitive => (primitiveSchemas.lookup t.qualifiedName).getD .anything
  | .ofClass | .enum => .reference t.qualifiedName
  | _ => .anything

mutual

def propertySchema (v : View m) : Descriptor → m Schema
  | .array _ element unique => do
    let items ← propertySchema v element
    pure (.array items unique)
  | .generic _ origin args => genericSchema origin (argumentSchemas v args)
  | t => do
    let kind ← v.kind t
    pure (schemaOfKind t kind)

def argumentSchemas (v : View m) : List Descriptor → List (m Schema)
  | [] => []
  | t :: rest => propertySchema v t :: argumentSchemas v rest

end

end ModelReach
